import Rulebook.Settings.Path

/-!
Layers of settings.

A layer gives values to names. Layers are put on top of each other: tables are merged name by name,
and of other values the upper one is seen.

* `Setting.onto`: a value on top of another.
* `Setting.change`: another value at the end of a path.
* `Layer.onto`: a layer on top of a table.
* `Layer.merge`: layers on top of each other.
-/

namespace Rulebook

namespace Setting

/-- The entries of a table; other values have none. -/
def entries : Setting → List (String × Setting)
  | table entries => entries
  | _ => []

/-- The items of a list; other values have none. -/
def items : Setting → List Setting
  | list items => items
  | _ => []

/-- Changes the value of a name, in the place that the name has. A name without a value comes last,
and is changed from nothing. -/
def alter (name : String) (f : Setting → Setting) : List (String × Setting) → List (String × Setting)
  | [] => [(name, f nothing)]
  | (key, old) :: rest =>
    if key = name then (key, f old) :: rest else (key, old) :: alter name f rest

/-- Changes the item at a place. Where the list does not reach, it is filled up with nothing. -/
def alterItem (place : Int) (f : Setting → Setting) (items : List Setting) : List Setting :=
  let place := if 0 ≤ place then place else items.length + place
  if place < 0 then f nothing :: List.replicate (-place - 1).toNat nothing ++ items
  else (items.rightpad (place.toNat + 1) nothing).modify place.toNat f

/-- Changes the value at the end of a path. What is on the way becomes a table or a list, if it is
none. -/
def change (f : Setting → Setting) : List Step → Setting → Setting
  | [], s => f s
  | .name name :: rest, s => table (alter name (change f rest) s.entries)
  | .item place :: rest, s => list (alterItem place (change f rest) s.items)

mutual

/-- A value on top of another. A table is merged into the one below it, any other value hides what
is below. -/
def onto : Setting → Setting → Setting
  | table entries, below => table (entriesOnto entries below.entries)
  | value, _ => value

/-- Entries on top of others, one after the other. -/
def entriesOnto : List (String × Setting) → List (String × Setting) → List (String × Setting)
  | [], below => below
  | (name, value) :: rest, below => entriesOnto rest (alter name (onto value) below)

end

end Setting

/-- Values by name. -/
abbrev Layer := List (String × Setting)

namespace Layer

/-- A layer on top of a table. -/
def onto (layer : Layer) (below : Setting) : Setting :=
  layer.foldl (fun below (name, value) => .change value.onto (Setting.path name) below) below

/-- Layers in one, the later on top of the earlier. -/
def merge (layers : List Layer) : Setting :=
  layers.foldl (fun below layer => layer.onto below) (.table [])

end Layer
end Rulebook
