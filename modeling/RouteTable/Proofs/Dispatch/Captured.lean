import RouteTable.Proofs.Dispatch.RoundTrip
import RouteTable.Proofs.Pattern.Placeholders

/-!
# Values satisfy their placeholders

A handler is given the placeholders of the declaration that answers, each once and in order, and the
value of each is what its expression asks for, whatever other routes are in the same chunk.

* `nodup_placeholders`: no declaration that was taken in has two placeholders of one name.
* `exists_value_of_compiled`: what a declaration finds alone, its placeholders match.
* `values_match_placeholders`: so do the values that are found in a table.
-/

namespace RouteTable

variable {calls : List Declaration} {d : Declaration} {path name sub : String}

theorem nodup_placeholders (hd : d ∈ (RouteSet.empty.declareEach calls).1) :
    (d.tokens.filterMap Token.name?).Nodup := by
  rw [← names_eq hd]
  rcases path_or_compiled hd with ⟨literal, hpath⟩ | ⟨p, hp⟩
  · rw [Declaration.names_of_path hpath]
    exact List.nodup_nil
  · rw [Declaration.names_of_compiled hp]
    exact Declaration.nodup_names hp

/-- Each value that a declaration finds alone is matched by the expression of its placeholder. -/
theorem exists_value_of_compiled (hkeep : d.keepsGroups = true) {p : CompiledPattern}
    (hp : d.compiled? = some p) (hmatch : (matchAlone? p.regex path).isSome = true)
    (hmem : .placeholder name sub ∈ d.tokens) :
    ∃ value, (name, value) ∈ d.variables path ∧
      (hasAssertion sub = false → (matchAlone? sub value).isSome = true) ∧
      (sub = defaultSubPattern → IsSegment value) := by
  obtain ⟨matcher, c, hcompile, hc, hvariables⟩ := exists_captures_of_matchAlone hp hmatch
  obtain ⟨value, hvalue, halone, hsegment⟩ := exists_value_of_captures
    (Declaration.ofTokens_tokens hp) (Declaration.keepGroups_tokens hkeep) hcompile hc hmem
  rw [hvariables]
  refine ⟨value, hvalue, fun hfree => ?_, hsegment⟩
  obtain ⟨r, hr, hmatch⟩ := halone hfree
  rw [matchAlone?, hr]
  exact hmatch

/-- **What is found satisfies the placeholders.** Whatever was declared, the variables of a request
that is answered have the names of the placeholders of the declaration that answers, in order and
each once. If the declarations keep their groups, each value is matched by the expression of its
placeholder on its own, if that has no condition on places in it, and the value of a placeholder
without an expression is a segment. -/
theorem values_match_placeholders {table : DispatchTable} {disp : Dispatcher}
    (hbuild : (RouteSet.empty.declareEach calls).2.build = .ok table)
    (hload : Dispatcher.ofTable table = .ok disp) {method : String} {f : Found}
    (hfound : disp.find method path = .found f) :
    ∃ d ∈ (RouteSet.empty.declareEach calls).1,
      AnsweredBy (RouteSet.empty.declareEach calls).2 disp method path d ∧
      f.handler = d.handler ∧ f.values.map Prod.fst = d.tokens.filterMap Token.name? ∧
      (f.values.map Prod.fst).Nodup ∧
      ((∀ d ∈ (RouteSet.empty.declareEach calls).1, d.keepsGroups = true) →
        ∀ name sub, .placeholder name sub ∈ d.tokens → ∃ value, (name, value) ∈ f.values ∧
          (hasAssertion sub = false → (matchAlone? sub value).isSome = true) ∧
          (sub = defaultSubPattern → IsSegment value)) := by
  obtain ⟨d, hd, hentry, hhandler, hnames⟩ := exists_answeredBy hbuild hload hfound
  rw [names_eq hd] at hnames
  refine ⟨d, hd, hentry, hhandler, hnames, hnames ▸ nodup_placeholders hd,
    fun hkeep name sub hmem => ?_⟩
  rcases answered_cases hkeep hbuild hload hd hfound hentry with
    ⟨hpath, rfl⟩ | ⟨p, hp, hmatch, rfl⟩
  · -- a literal path has no placeholders
    rw [Declaration.tokens_of_path hpath, List.mem_singleton] at hmem
    exact Token.noConfusion hmem
  · exact exists_value_of_compiled (hkeep d hd) hp hmatch hmem

/-- A year is matched by its expression, and what stands behind it is a segment. -/
theorem values_match_blog : ∃ table disp f,
    (RouteSet.empty.declareEach blog).2.build = .ok table ∧
      Dispatcher.ofTable table = .ok disp ∧
      disp.find "GET" "/posts/2024/a{b}c" = .found f ∧
      f.values = [("year", "2024"), ("slug", "a{b}c")] ∧
      (matchAlone? "[0-9]+" "2024").isSome = true ∧ IsSegment "a{b}c" := by
  have hanswer : reference blog "GET" "/posts/2024/a{b}c" =
      .found ⟨⟨"Posts", "show"⟩, [("year", "2024"), ("slug", "a{b}c")]⟩ := by decide +kernel
  have hothers : ∀ d ∈ blog, d.handler = ⟨"Posts", "show"⟩ → d = blog[0] := by decide +kernel
  have htokens : blog[0].tokens = [.literal "/posts/", .placeholder "year" "[0-9]+",
    .literal "/", .placeholder "slug" defaultSubPattern] := by decide +kernel
  have hfree : hasAssertion "[0-9]+" = false := by decide +kernel
  obtain ⟨table, disp, hbuild, hload⟩ := exists_of_serves serves_blog
  have hfound := (history_declareEach blog).find_eq keepsGroups_blog hbuild hload
    "GET" "/posts/2024/a{b}c"
  rw [declareEach_blog, hanswer] at hfound
  obtain ⟨d, hd, -, hhandler, -, -, hvalues⟩ := values_match_placeholders hbuild hload hfound
  rw [declareEach_blog] at hd
  obtain rfl := hothers d hd hhandler.symm
  have hvalues := hvalues keepsGroups_blog
  rw [htokens] at hvalues
  obtain ⟨year, hyear, hmatch, -⟩ := hvalues "year" "[0-9]+" (by simp)
  obtain ⟨slug, hslug, -, hsegment⟩ := hvalues "slug" defaultSubPattern (by simp)
  obtain rfl : year = "2024" := by simpa using hyear
  obtain rfl : slug = "a{b}c" := by simpa using hslug
  exact ⟨table, disp, _, hbuild, hload, hfound, rfl, hmatch hfree, hsegment rfl⟩

end RouteTable
