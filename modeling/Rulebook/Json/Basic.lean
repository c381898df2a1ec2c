import Rulebook.Number.Decimal

/-!
JSON values.

A value keeps what its text said: the members of an object in their order, repeated names
included, and numbers in decimal. What a repeated name means is the business of who reads the
value: `normalize` lets the last one win, a typed decoder refuses it.

* `Json.get?`: the value of a member, of repeated ones the last.
* `Json.normalize`: distinct names in ascending order at every depth.
-/

namespace Rulebook

/-- A number, with the difference between `1` and `1.0` kept. -/
structure Json.Number where
  decimal : Decimal
  /-- Written without fraction and exponent. -/
  integral : Bool
  deriving DecidableEq, Repr, Inhabited

inductive Json where
  | null
  | bool (b : Bool)
  | number (n : Json.Number)
  | string (s : String)
  | array (items : List Json)
  | object (members : List (String × Json))
  deriving Repr, Inhabited

namespace Json

/-- A whole number. -/
def Number.ofNat (n : Nat) : Number := ⟨⟨false, n, 0⟩, true⟩

/-- The double nearest to a number. -/
def Number.toDouble (n : Number) : Double := n.decimal.toDouble

/-- A whole number as a value. -/
def nat (n : Nat) : Json := .number (.ofNat n)

/-- The last value that goes by the name. -/
def lookupLast (name : String) : List (String × Json) → Option Json
  | [] => none
  | (key, value) :: rest =>
    (lookupLast name rest).orElse fun _ => if key = name then some value else none

/-- The value of a member; only objects have members. -/
def get? (name : String) : Json → Option Json
  | object members => lookupLast name members
  | _ => none

/-- The text of a string. -/
def text? : Json → Option String
  | string s => some s
  | _ => none

/-- The items of an array. -/
def items? : Json → Option (List Json)
  | array items => some items
  | _ => none

/-- Puts a member into its place in ascending order, unless the name is taken. -/
def insertMember (key : String) (value : Json) : List (String × Json) → List (String × Json)
  | [] => [(key, value)]
  | (k, v) :: rest =>
    if key < k then (key, value) :: (k, v) :: rest
    else if key = k then (k, v) :: rest
    else (k, v) :: insertMember key value rest

mutual

/-- Orders the members of every object by name; of repeated ones the last stays. -/
def normalize : Json → Json
  | array items => array (normalizeItems items)
  | object members => object (normalizeMembers members)
  | value => value

/-- `normalize` on the items of an array. -/
def normalizeItems : List Json → List Json
  | [] => []
  | item :: rest => normalize item :: normalizeItems rest

/-- `normalize` on the members of an object. -/
def normalizeMembers : List (String × Json) → List (String × Json)
  | [] => []
  | (key, value) :: rest => insertMember key (normalize value) (normalizeMembers rest)

end

end Json
end Rulebook
