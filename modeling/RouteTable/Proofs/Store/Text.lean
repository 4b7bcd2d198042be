import Mathlib.Algebra.GroupWithZero.Nat
import RouteTable.Dispatcher
import RouteTable.Proofs.Json.RoundTrip
import RouteTable.Url

/-!
# The text of a table

A table is written as JSON and read again without loss, so the dispatcher and the named routes of
the table that is read are those of the table that was written.

* `DispatchTable.HasPositions`: the positions of a table are numbers of 64 bits.
* `DispatchTable.roundTrips`: the tree of a table is decoded to that table; the lemmas before it say
  so of its parts.
* `ofJson?_toJson`: the text of a table holds that table.
-/

namespace RouteTable

open Json (RoundTrips)

/-! ## Trees -/

/-- A record round-trips if its fields can be printed and are put together as they were. -/
theorem Json.RoundTrips.record {α : Type} {encode : α → Json} {decode : Json → Option α} {x : α}
    (names : List String) (values : List Json) (hnames : Json.areFieldNames names = true)
    (hlength : names.length = values.length) (hencode : encode x = .ofFields (names.zip values))
    (hvalues : ∀ value ∈ values, value.Escaped)
    (hdecode : (encode x).fields? names = some (values.map some) → decode (encode x) = some x) :
    RoundTrips encode decode x where
  escaped := hencode ▸ Json.escaped_ofFields hnames hvalues
  decoded := hdecode (hencode ▸ Json.fields?_ofFields hnames hlength)

theorem roundTrips_strings (texts : List String) :
    RoundTrips Json.ofStrings (Json.list? Json.toString?) texts :=
  RoundTrips.list fun text _ => RoundTrips.string text

theorem Handler.roundTrips (h : Handler) : RoundTrips Handler.encode Handler.decode? h := by
  have hclass := RoundTrips.string h.className
  have hmethod := RoundTrips.string h.methodName
  refine RoundTrips.record ["class", "method"] [.ofString h.className, .ofString h.methodName]
    (by decide) rfl rfl ?_ fun hfields => ?_
  · simp [hclass.escaped, hmethod.escaped]
  · rw [Handler.decode?, hfields]
    simp [hclass.decoded, hmethod.decoded]

theorem Target.roundTrips (t : Target) : RoundTrips Target.encode Target.decode? t := by
  have hhandler := t.handler.roundTrips
  have hnames := roundTrips_strings t.names
  refine RoundTrips.record ["handler", "variables"] [t.handler.encode, .ofStrings t.names]
    (by decide) rfl rfl ?_ fun hfields => ?_
  · simp [hhandler.escaped, hnames.escaped]
  · rw [Target.decode?, hfields]
    simp [hhandler.decoded, hnames.decoded]

theorem Chunk.roundTrips (c : Chunk) (h : ∀ k ∈ c.routeMap.keys, k < 2 ^ 64) :
    RoundTrips Chunk.encode Chunk.decode? c := by
  have hregex := RoundTrips.string c.regex
  have hmap := RoundTrips.numberedMap (m := c.routeMap) h fun e _ =>
    RoundTrips.map fun e' (_ : e' ∈ e.2.entries) => e'.2.roundTrips
  refine RoundTrips.record ["regex", "route_map"]
    [.ofString c.regex, .ofNumberedMap (Json.ofMap Target.encode) c.routeMap]
    (by decide) rfl rfl ?_ fun hfields => ?_
  · simp [hregex.escaped, hmap.escaped]
  · rw [Chunk.decode?, hfields]
    simp [hregex.decoded, hmap.decoded]

theorem NamedRoute.roundTrips (n : NamedRoute) :
    RoundTrips NamedRoute.encode NamedRoute.decode? n := by
  have htemplate := RoundTrips.string n.template
  have hnames := roundTrips_strings n.names
  refine RoundTrips.record ["template", "variables"] [.ofString n.template, .ofStrings n.names]
    (by decide) rfl rfl ?_ fun hfields => ?_
  · simp [htemplate.escaped, hnames.escaped]
  · rw [NamedRoute.decode?, hfields]
    simp [htemplate.decoded, hnames.decoded]

namespace DispatchTable

/-- The positions of the table are numbers of 64 bits. -/
def HasPositions (t : DispatchTable) : Prop :=
  ∀ c ∈ t.chunks, ∀ k ∈ c.routeMap.keys, k < 2 ^ 64

/-- The tree of a table is decoded to that table. -/
theorem roundTrips {t : DispatchTable} (h : t.HasPositions) :
    RoundTrips DispatchTable.encode DispatchTable.decode? t := by
  have hstatic := RoundTrips.map (m := t.staticRoutes) fun e _ =>
    RoundTrips.map fun e' (_ : e' ∈ e.2.entries) => e'.2.roundTrips
  have hchunks := RoundTrips.list fun c (hc : c ∈ t.chunks) => c.roundTrips (h c hc)
  have hnamed := RoundTrips.map (m := t.named) fun e _ => e.2.roundTrips
  refine RoundTrips.record ["static", "variable", "named"]
    [.ofMap (Json.ofMap Handler.encode) t.staticRoutes, .array (t.chunks.map Chunk.encode),
      .ofMap NamedRoute.encode t.named]
    (by decide) rfl rfl ?_ fun hfields => ?_
  · simp [hstatic.escaped, hchunks.escaped, hnamed.escaped]
  · rw [DispatchTable.decode?, hfields]
    simp [hstatic.decoded, hchunks.decoded, hnamed.decoded]

/-! ## Texts -/

/-- The text of a table holds that table. -/
theorem ofJson?_toJson {t : DispatchTable} (h : t.HasPositions) : ofJson? t.toJson = some t := by
  rw [ofJson?, toJson, Json.read?_pretty (roundTrips h).escaped, Option.bind_some,
    (roundTrips h).decoded]

end DispatchTable

/-- **Nothing of a table is lost in its text.** The table that is read is the one that was written,
and so both are accepted or neither is, and they answer and make paths alike. -/
theorem table_of_text {t : DispatchTable} (h : t.HasPositions) :
    DispatchTable.ofJson? t.toJson = some t ∧
      ∀ t', DispatchTable.ofJson? t.toJson = some t' →
        (Dispatcher.ofTable t').isOk = (Dispatcher.ofTable t).isOk ∧
          (∀ d d', Dispatcher.ofTable t = .ok d → Dispatcher.ofTable t' = .ok d' →
            ∀ method path, d'.find method path = d.find method path) ∧
          ∀ name params, t'.named.generate name params = t.named.generate name params := by
  have hread := DispatchTable.ofJson?_toJson h
  refine ⟨hread, fun t' ht' => ?_⟩
  obtain rfl := Option.some.inj (hread.symm.trans ht')
  refine ⟨rfl, fun d d' hd hd' _ _ => ?_, fun _ _ => rfl⟩
  rw [Except.ok.inj (hd.symm.trans hd')]

/-- A table with texts and a position that are hard to write: quotes, backslashes, control
characters, characters beyond U+FFFF, the greatest position, and maps and lists of which nothing is
in them. -/
def unprintable : DispatchTable where
  staticRoutes := .ofList [("", .empty),
    ("/\"\\\x00\x1f\x7f", .ofList [("GET", ⟨"\n\t\r", "\x08\x0c/"⟩)])]
  chunks := [⟨"^(?:/([^/]+))$", .ofList [(0, .empty),
      (2 ^ 64 - 1, .ofList [("GET", ⟨⟨"é", "\\u0041"⟩, []⟩)])]⟩,
    ⟨"", .empty⟩]
  named := .ofList [("😀", ⟨"/\x7bid\x7d", ["id", "\u2028"]⟩)]

theorem text_unprintable :
    unprintable.HasPositions ∧ DispatchTable.ofJson? unprintable.toJson = some unprintable := by
  have h : unprintable.HasPositions := by
    unfold DispatchTable.HasPositions
    decide +kernel
  exact ⟨h, (table_of_text h).1⟩

end RouteTable
