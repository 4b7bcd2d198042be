import RouteTable.Proofs.Pattern.Reading
import RouteTable.Url

/-!
# Paths woven from patterns

A path is woven from a pattern if the literal texts stand in it as they are, and between them a
value for each placeholder. Filling in a template weaves a path, and matching takes one apart;
`Woven` is what the two have in common.

* `fillIn_template`: a template filled in is the path woven with the values of its names.
* `exists_woven`: any segments can be woven in.
* `segmentsApart`: each placeholder stands for a segment and is followed by a slash or the end.
* `Woven.unique`: then the values can be read off the path.
-/

namespace RouteTable

/-- What a placeholder without an expression stands for: some text without slashes. -/
structure IsSegment (value : String) : Prop where
  ne_empty : value ≠ ""
  not_mem : '/' ∉ value.toList

/-- The text is that of the tokens, with the values in the places of the placeholders. -/
inductive Woven : List Token → List String → List Char → Prop
  | nil : Woven [] [] []
  | literal {tokens : List Token} {values : List String} {cs : List Char} (text : String)
      (h : Woven tokens values cs) : Woven (.literal text :: tokens) values (text.toList ++ cs)
  | placeholder {tokens : List Token} {values : List String} {cs : List Char} {value : String}
      (name : String) {sub : String} (hvalue : sub = defaultSubPattern → IsSegment value)
      (h : Woven tokens values cs) :
      Woven (.placeholder name sub :: tokens) (value :: values) (value.toList ++ cs)

variable {tokens : List Token} {values values' : List String} {cs : List Char}

/-- There is one value for each placeholder. -/
theorem Woven.length_eq (h : Woven tokens values cs) :
    values.length = (tokens.filterMap Token.name?).length := by
  induction h with
  | nil => rfl
  | literal _ _ ih => exact ih
  | placeholder _ _ _ ih => rw [List.length_cons, ih]; rfl

/-- Segments can be woven in, one for each placeholder. -/
theorem exists_woven : ∀ {tokens : List Token} {values : List String},
    values.length = (tokens.filterMap Token.name?).length → (∀ v ∈ values, IsSegment v) →
      ∃ cs, Woven tokens values cs
  | [], [], _, _ => ⟨[], .nil⟩
  | .literal text :: tokens, values, hlength, hvalues => by
    obtain ⟨cs, h⟩ := @exists_woven tokens values hlength hvalues
    exact ⟨_, h.literal text⟩
  | .placeholder name sub :: tokens, value :: values, hlength, hvalues => by
    rw [List.forall_mem_cons] at hvalues
    obtain ⟨cs, h⟩ := @exists_woven tokens values (Nat.succ.inj hlength) hvalues.2
    exact ⟨_, h.placeholder name fun _ => hvalues.1⟩

/-! ## Filling in -/

section FillIn

variable (params : List (String × String)) (rest : List Char)

theorem fillIn_literal : ∀ {text : List Char}, '\x7b' ∉ text →
    fillIn params none (text ++ rest) = (fillIn params none rest).map (text ++ ·)
  | [], _ => by
    rw [List.nil_append]
    cases fillIn params none rest <;> rfl
  | c :: text, h => by
    rw [List.mem_cons, not_or] at h
    rw [List.cons_append, fillIn, if_neg (Ne.symm h.1), fillIn_literal h.2]
    cases fillIn params none rest <;> rfl

theorem fillIn_name : ∀ {name : List Char} (read : List Char), '\x7d' ∉ name →
    fillIn params (some read) (name ++ '\x7d' :: rest) =
      fillIn params (some (name.reverse ++ read)) ('\x7d' :: rest)
  | [], read, _ => rfl
  | c :: name, read, h => by
    rw [List.mem_cons, not_or] at h
    rw [List.cons_append, fillIn, if_neg (Ne.symm h.1), fillIn_name (c :: read) h.2,
      List.reverse_cons, List.append_assoc, List.singleton_append]

theorem fillIn_placeholder {name value : String} (hname : isIdentifier name = true)
    (hvalue : params.lookup name = some value) :
    fillIn params none (('\x7b' :: (name.toList ++ ['\x7d'])) ++ rest) =
      (fillIn params none rest).map (value.toList ++ ·) := by
  have hbrace : '\x7d' ∉ name.toList := not_mem_of_isIdentifier hname (by decide)
  rw [List.cons_append, List.append_assoc, List.singleton_append, fillIn, if_pos rfl,
    fillIn_name params rest [] hbrace, fillIn, if_pos rfl, List.append_nil, List.reverse_reverse,
    String.ofList_toList, hvalue]
  cases fillIn params none rest <;> rfl

end FillIn

/-- **A template filled in is the path woven with the values of its names.** -/
theorem fillIn_template {params : List (String × String)} (hread : ∀ t ∈ tokens, t.IsRead)
    (h : Woven tokens values cs)
    (hvalues : (tokens.filterMap Token.name?).map (params.lookup ·) = values.map some) :
    fillIn params none (tokens.flatMap fun t => t.template.toList) = .ok cs := by
  induction h with
  | nil => rfl
  | literal text _ ih =>
    rw [List.forall_mem_cons] at hread
    rw [List.flatMap_cons, Token.template, fillIn_literal _ _ hread.1, ih hread.2 hvalues]
    rfl
  | @placeholder tokens values cs value name sub _ _ ih =>
    rw [List.forall_mem_cons] at hread
    change params.lookup name :: _ = some value :: _ at hvalues
    rw [List.cons.injEq] at hvalues
    have htemplate : (Token.template (.placeholder name sub)).toList =
        '\x7b' :: (name.toList ++ ['\x7d']) := by
      simp [Token.template]
    rw [List.flatMap_cons, htemplate, fillIn_placeholder params _ hread.1 hvalues.1,
      ih hread.2 hvalues.2]
    rfl

/-! ## Reading off the values -/

/-- Whether a placeholder before the tokens is followed by the end or by a slash. -/
def endsSegment : List Token → Bool
  | [] => true
  | .literal text :: _ => text.toList.head? == some '/'
  | .placeholder .. :: _ => false

/-- Whether every placeholder has the default expression and is followed by the end of the pattern,
or by a literal that starts with a slash. -/
def segmentsApart : List Token → Bool
  | [] => true
  | .literal _ :: tokens => segmentsApart tokens
  | .placeholder _ sub :: tokens =>
    sub == defaultSubPattern && endsSegment tokens && segmentsApart tokens

theorem head?_of_endsSegment (hend : endsSegment tokens = true) (h : Woven tokens values cs) :
    ∀ c, cs.head? = some c → c = '/' := by
  intro c hc
  cases h with
  | nil => exact absurd hc (by simp)
  | literal text h =>
    rw [List.head?_append, eq_of_beq hend, Option.some_or] at hc
    exact (Option.some.inj hc).symm
  | placeholder => exact absurd hend (by simp [endsSegment])

theorem takeWhile_segment {v rest : List Char} (hv : '/' ∉ v)
    (hrest : ∀ c, rest.head? = some c → c = '/') :
    (v ++ rest).takeWhile (fun c => c != '/') = v := by
  have hstop : rest.takeWhile (fun c => c != '/') = [] := by
    cases rest with
    | nil => rfl
    | cons c rest => rw [hrest c rfl]; rfl
  rw [List.takeWhile_append_of_pos, hstop, List.append_nil]
  intro c hc
  rw [bne_iff_ne]
  rintro rfl
  exact hv hc

/-- **Where segments are apart, a path can be woven from one list of values only.** -/
theorem Woven.unique (hapart : segmentsApart tokens = true) (h : Woven tokens values cs)
    (h' : Woven tokens values' cs) : values = values' := by
  induction h generalizing values' with
  | nil => cases h'; rfl
  | @literal tokens values rest text _ ih =>
    generalize hcs : text.toList ++ rest = cs at h'
    cases h' with
    | literal _ h' => exact ih hapart (List.append_cancel_left hcs ▸ h')
  | @placeholder tokens values rest value name sub hvalue h ih =>
    rw [segmentsApart, Bool.and_eq_true, Bool.and_eq_true, beq_iff_eq] at hapart
    obtain ⟨⟨hsub, hend⟩, htokens⟩ := hapart
    generalize hcs : value.toList ++ rest = cs at h'
    cases h' with
    | @placeholder _ _ rest' value' _ _ hvalue' h' =>
      have hfirst := takeWhile_segment (hvalue hsub).not_mem (head?_of_endsSegment hend h)
      rw [hcs, takeWhile_segment (hvalue' hsub).not_mem (head?_of_endsSegment hend h')] at hfirst
      rw [hfirst] at hcs
      obtain rfl := String.toList_inj.mp hfirst
      rw [ih htokens (List.append_cancel_left hcs ▸ h')]

end RouteTable
