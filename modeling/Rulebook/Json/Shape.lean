import Rulebook.Json.Reader

/-!
Reading a JSON text against the fields it should have.

A text is read from the left and the first fault decides: a text that stops being JSON is
malformed, a value that is not what its field takes is a mismatch, whatever follows it.

* The fields may be members of an object, in any order, or the items of an array, in the order of
  the fields. Fields left out are null, and null is what every field takes.
* A member that is no field is passed over; a field that is given twice is a mismatch.
* Items beyond the fields make the array malformed.

* `Shape.readFields`: the values of the fields.
-/

namespace Rulebook.Json

/-- What a field takes, beside null. -/
inductive Shape where
  /-- A string. -/
  | oneText
  /-- An array of strings. -/
  | manyTexts
  /-- Any value. -/
  | anything
  deriving DecidableEq, Repr

/-- Why a text does not give the fields. -/
inductive Fault where
  /-- The text is not JSON. -/
  | malformed
  /-- A value is not what its field takes, or a field is given twice. -/
  | mismatched
  deriving DecidableEq, Repr

namespace Shape

open Reader (skipSpace)

/-- Takes in a value that should have been read; without one the text is malformed. -/
def orMalformed {α : Type} : Option α → Except Fault α
  | some a => .ok a
  | none => .error .malformed

/-- The fault of a value of the wrong kind: an array or an object is a mismatch as soon as it
opens, any other value once it is complete. -/
def wrongKind (text : List Char) : Fault :=
  match text with
  | '[' :: _ => .mismatched
  | '{' :: _ => .mismatched
  | text => if (Reader.scalar? .keeping text).isSome then .mismatched else .malformed

/-- A string that has to be there. -/
def readText (text : List Char) : Except Fault (Json × List Char) :=
  match skipSpace text with
  | '"' :: rest => orMalformed ((Reader.string? .keeping rest).map fun (s, rest) => (string s, rest))
  | text => .error (wrongKind text)

/-- Strings up to a closing bracket; there is at least one. -/
def readTexts : (fuel : Nat) → List Char → Except Fault (List Json × List Char)
  | 0, _ => .error .malformed
  | fuel + 1, text => do
    let (item, rest) ← readText text
    match skipSpace rest with
    | ']' :: rest => .ok ([item], rest)
    | ',' :: rest =>
      match skipSpace rest with
      | ']' :: _ => .error .malformed
      | rest => do
        let (items, rest) ← readTexts fuel rest
        .ok (item :: items, rest)
    | _ => .error .malformed

/-- The value of a field. `depth` counts the levels of nesting that are still allowed inside. -/
def readField (depth : Nat) (shape : Shape) (text : List Char) :
    Except Fault (Json × List Char) :=
  match shape, skipSpace text with
  | .anything, text => orMalformed (Reader.value? .keeping (Reader.fuelFor text) depth text)
  | .oneText, 'n' :: rest => orMalformed (Reader.scalar? .keeping ('n' :: rest))
  | .oneText, text => readText text
  | .manyTexts, 'n' :: rest => orMalformed (Reader.scalar? .keeping ('n' :: rest))
  | .manyTexts, '[' :: rest =>
    match skipSpace rest with
    | ']' :: rest => .ok (array [], rest)
    | rest => (readTexts (rest.length + 1) rest).map fun (items, rest) => (array items, rest)
  | .manyTexts, text => .error (wrongKind text)

/-- The fields as the items of an array, behind its opening bracket. -/
def readItems (depth : Nat) : List (String × Shape) → (first : Bool) → List Char →
    Except Fault (List (String × Json) × List Char)
  | [], _, text =>
    match skipSpace text with
    | ']' :: rest => .ok ([], rest)
    | _ => .error .malformed
  | (name, shape) :: fields, first, text =>
    let next (text : List Char) : Except Fault (List (String × Json) × List Char) := do
      let (value, rest) ← readField depth shape text
      let (values, rest) ← readItems depth fields false rest
      .ok ((name, value) :: values, rest)
    match skipSpace text with
    | ']' :: rest => .ok ([], rest)
    | ',' :: rest =>
      if first then next (',' :: rest)
      else match skipSpace rest with
        | ']' :: _ => .error .malformed
        | rest => next rest
    | rest => if first then next rest else .error .malformed

/-- The name of a member and the text behind it. -/
def readName (text : List Char) : Except Fault (String × List Char) :=
  match skipSpace text with
  | '"' :: rest => orMalformed (Reader.string? .keeping rest)
  | _ => .error .malformed

/-- Drops the colon behind a name. -/
def afterColon (text : List Char) : Except Fault (List Char) :=
  match skipSpace text with
  | ':' :: rest => .ok rest
  | _ => .error .malformed

/-- The fields as members of an object, up to its closing brace; there is at least one member.
`seen` holds what has been read. -/
def readMembers (depth : Nat) (fields : List (String × Shape)) :
    (fuel : Nat) → (seen : List (String × Json)) → List Char →
    Except Fault (List (String × Json) × List Char)
  | 0, _, _ => .error .malformed
  | fuel + 1, seen, text => do
    let (name, rest) ← readName text
    let (seen, rest) ← match fields.lookup name with
      | some shape =>
        if (seen.lookup name).isSome then .error .mismatched
        else do
          let (value, rest) ← readField depth shape (← afterColon rest)
          .ok ((name, value) :: seen, rest)
      | none => do
        let rest ← afterColon rest
        let (_, rest) ← orMalformed (Reader.value? .passing (Reader.fuelFor rest) rest.length rest)
        .ok (seen, rest)
    match skipSpace rest with
    | '}' :: rest => .ok (seen, rest)
    | ',' :: rest => readMembers depth fields fuel seen rest
    | _ => .error .malformed

/-- The fields of a text, and the text behind them. -/
def readFieldsThen (fields : List (String × Shape)) (text : List Char) :
    Except Fault (List (String × Json) × List Char) :=
  let depth := Reader.depthLimit - 1
  match skipSpace text with
  | '{' :: rest =>
    match skipSpace rest with
    | '}' :: rest => .ok ([], rest)
    | rest => readMembers depth fields (rest.length + 1) [] rest
  | '[' :: rest => readItems depth fields true rest
  | text => .error (wrongKind text)

/-- The values of the fields that a whole text gives; fields left out are missing. -/
def readFields (fields : List (String × Shape)) (text : List Char) :
    Except Fault (List (String × Json)) := do
  let (values, rest) ← readFieldsThen fields text
  if (skipSpace rest).isEmpty then .ok values else .error .malformed

end Shape
end Rulebook.Json
