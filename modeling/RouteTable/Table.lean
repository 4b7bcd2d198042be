import RouteTable.Json.Decode
import RouteTable.Json.Printer
import RouteTable.Json.Reader

/-!
# Dispatch tables

Model of `DispatchTable` (`dispatch::table`) and `Handler` (`route::handler`): the frozen result of
compiling routes. Paths without placeholders are looked up; all others are matched chunk by chunk, a
chunk being one expression for several patterns. `Chunk.routeMap` says which pattern has matched: it
is keyed by the number of the last group that has taken part, plus one.

* `DispatchTable.toJson` (`to_json`) writes a table as JSON, `DispatchTable.ofJson?` (`from_json`)
  reads it. Fields and their order are those that the records derive.
-/

namespace RouteTable

/-- A reference to the code that answers a request: a class and one of its methods. What the names
stand for is looked up when a request is dispatched. -/
structure Handler where
  className : String
  methodName : String
  deriving DecidableEq, Repr

instance : ToString Handler where
  toString h := s!"{h.className}::{h.methodName}"

/-- What a pattern leads to for one method: a handler, and the names of the variables, whose values
are in the groups before the position that the target is filed under. -/
structure Target where
  handler : Handler
  names : List String
  deriving DecidableEq, Repr

/-- Several patterns that are matched at once. -/
structure Chunk where
  regex : String
  routeMap : SortedMap Nat (SortedMap String Target)
  deriving DecidableEq

/-- What a named route needs to make a path: a template, and the names of its parameters. -/
structure NamedRoute where
  template : String
  names : List String
  deriving DecidableEq, Repr

/-- Named routes by name. -/
abbrev NamedRoutes := SortedMap String NamedRoute

/-- Handlers by path and method. -/
abbrev StaticTable := SortedMap String (SortedMap String Handler)

/-- A compiled set of routes. -/
structure DispatchTable where
  staticRoutes : StaticTable
  chunks : List Chunk
  named : NamedRoutes
  deriving DecidableEq

/-! ## The tree of a table -/

/-- The tree of a list of texts. -/
def Json.ofStrings (texts : List String) : Json := .array (texts.map Json.ofString)

/-- The tree of a handler. -/
def Handler.encode (h : Handler) : Json :=
  .ofFields [("class", .ofString h.className), ("method", .ofString h.methodName)]

/-- The handler of a tree. -/
def Handler.decode? (j : Json) : Option Handler := do
  match ← j.fields? ["class", "method"] with
  | [some c, some m] => return ⟨← c.toString?, ← m.toString?⟩
  | _ => none

/-- The tree of a target. -/
def Target.encode (t : Target) : Json :=
  .ofFields [("handler", t.handler.encode), ("variables", .ofStrings t.names)]

/-- The target of a tree. -/
def Target.decode? (j : Json) : Option Target := do
  match ← j.fields? ["handler", "variables"] with
  | [some h, some vs] => return ⟨← Handler.decode? h, ← vs.list? Json.toString?⟩
  | _ => none

/-- The tree of a chunk. -/
def Chunk.encode (c : Chunk) : Json :=
  .ofFields [("regex", .ofString c.regex),
    ("route_map", .ofNumberedMap (Json.ofMap Target.encode) c.routeMap)]

/-- The chunk of a tree. -/
def Chunk.decode? (j : Json) : Option Chunk := do
  match ← j.fields? ["regex", "route_map"] with
  | [some r, some m] => return ⟨← r.toString?, ← m.numberedMap? (Json.map? Target.decode?)⟩
  | _ => none

/-- The tree of a named route. -/
def NamedRoute.encode (n : NamedRoute) : Json :=
  .ofFields [("template", .ofString n.template), ("variables", .ofStrings n.names)]

/-- The named route of a tree. -/
def NamedRoute.decode? (j : Json) : Option NamedRoute := do
  match ← j.fields? ["template", "variables"] with
  | [some t, some vs] => return ⟨← t.toString?, ← vs.list? Json.toString?⟩
  | _ => none

/-- The tree of a table. -/
def DispatchTable.encode (t : DispatchTable) : Json :=
  .ofFields [("static", .ofMap (Json.ofMap Handler.encode) t.staticRoutes),
    ("variable", .array (t.chunks.map Chunk.encode)),
    ("named", .ofMap NamedRoute.encode t.named)]

/-- The table of a tree. -/
def DispatchTable.decode? (j : Json) : Option DispatchTable := do
  match ← j.fields? ["static", "variable", "named"] with
  | [some s, some v, some n] =>
    return ⟨← s.map? (Json.map? Handler.decode?), ← v.list? Chunk.decode?,
      ← n.map? NamedRoute.decode?⟩
  | _ => none

/-! ## The text of a table -/

/-- The JSON text of a table. -/
def DispatchTable.toJson (t : DispatchTable) : String := t.encode.pretty

/-- The table that a JSON text holds. -/
def DispatchTable.ofJson? (text : String) : Option DispatchTable :=
  (Json.read? text).bind DispatchTable.decode?

end RouteTable
