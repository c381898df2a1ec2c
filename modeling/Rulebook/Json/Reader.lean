import Rulebook.Json.Basic

/-!
JSON from text.

The whole text has to be one value, with blanks around it. Nesting is limited, numbers have to be
finite as doubles, and every surrogate in an escape has to be one of a pair.

A part of a text whose value is not wanted is only passed over: there nesting and the size of
numbers are free, and an escape needs no more than its four hexadecimal digits (`Care.passing`).

* `Json.ofText?`: the value of a text.
* `Reader.value?`: the value at the start of a text, and the text behind it.
-/

namespace Rulebook.Json.Reader

/-- How carefully a text is read. -/
inductive Care where
  /-- The value is wanted. -/
  | keeping
  /-- The value is thrown away. -/
  | passing
  deriving DecidableEq, Repr

/-- The blanks between the parts of a text. -/
def isSpace (c : Char) : Bool := c == ' ' || c == '\n' || c == '\t' || c == '\r'

/-- Drops the blanks at the start. -/
def skipSpace (text : List Char) : List Char := text.dropWhile isSpace

/-! ### Strings -/

/-- Where a string is being read, with the leading half of a surrogate pair that waits for the
other half. -/
inductive StringState where
  | text (waiting : Option Nat)
  | escape (waiting : Option Nat)
  | unit (waiting : Option Nat) (missing : Nat) (value : Nat)

/-- The character of a one-letter escape. -/
def simpleEscape? (c : Char) : Option Char :=
  match c with
  | '"' => some '"'
  | '\\' => some '\\'
  | '/' => some '/'
  | 'b' => some '\x08'
  | 'f' => some '\x0c'
  | 'n' => some '\n'
  | 'r' => some '\r'
  | 't' => some '\t'
  | _ => none

/-- Takes in a 16-bit unit: the characters it completes and the half it leaves waiting. -/
def takeUnit? (care : Care) (waiting : Option Nat) (unit : Nat) : Option (List Char × Option Nat) :=
  if care = .passing then some ([], none)
  else
    match waiting with
    | some high =>
      if 0xdc00 ≤ unit && unit < 0xe000 then
        some ([Char.ofNat (0x10000 + (high - 0xd800) * 0x400 + (unit - 0xdc00))], none)
      else none
    | none =>
      if 0xd800 ≤ unit && unit < 0xdc00 then some ([], some unit)
      else if 0xdc00 ≤ unit && unit < 0xe000 then none
      else some ([Char.ofNat unit], none)

/-- The rest of a string, behind its opening quote; `acc` holds what has been read, in reverse. -/
def stringRest? (care : Care) : StringState → List Char → List Char → Option (String × List Char)
  | _, _, [] => none
  | .text waiting, acc, c :: rest =>
    if c = '\\' then stringRest? care (.escape waiting) acc rest
    else if waiting.isSome then none
    else if c = '"' then some (String.ofList acc.reverse, rest)
    else if c.toNat < 0x20 then none
    else stringRest? care (.text none) (c :: acc) rest
  | .escape waiting, acc, c :: rest =>
    if c = 'u' then stringRest? care (.unit waiting 4 0) acc rest
    else if waiting.isSome then none
    else match simpleEscape? c with
      | some plain => stringRest? care (.text none) (plain :: acc) rest
      | none => none
  | .unit waiting missing value, acc, c :: rest =>
    match Decimal.digitValue? 16 c with
    | none => none
    | some digit =>
      let value := 16 * value + digit
      if missing ≤ 1 then
        match takeUnit? care waiting value with
        | some (chars, waiting) => stringRest? care (.text waiting) (chars ++ acc) rest
        | none => none
      else stringRest? care (.unit waiting (missing - 1) value) acc rest

/-- A string, behind its opening quote. -/
def string? (care : Care) (text : List Char) : Option (String × List Char) :=
  stringRest? care (.text none) [] text

/-! ### Numbers -/

/-- The exponent of a number and the text behind it; without one the exponent is zero. -/
def exponent? (text : List Char) : Option (Bool × Int × List Char) :=
  let marked (rest : List Char) : Option (Bool × Int × List Char) :=
    let (negative, rest) := Decimal.takeSign rest
    let (digits, rest) := Decimal.spanDigits rest
    if digits.isEmpty then none
    else
      let e : Int := Decimal.natOfDigits digits
      some (true, if negative then -e else e, rest)
  match text with
  | 'e' :: rest => marked rest
  | 'E' :: rest => marked rest
  | _ => some (false, 0, text)

/-- The digits behind the point, if there is one, and the text behind them. -/
def fraction? (text : List Char) : Option (List Char × List Char) :=
  match text with
  | '.' :: rest =>
    let (digits, rest) := Decimal.spanDigits rest
    if digits.isEmpty then none else some (digits, rest)
  | _ => some ([], text)

/-- The digits before the point: a zero stands alone. -/
def whole? (text : List Char) : Option (List Char × List Char) :=
  let (digits, rest) := Decimal.spanDigits text
  match digits with
  | [] => none
  | '0' :: _ :: _ => none
  | _ => some (digits, rest)

/-- A number. -/
def number? (care : Care) (text : List Char) : Option (Number × List Char) := do
  let (negative, text) := match text with
    | '-' :: rest => (true, rest)
    | _ => (false, text)
  let (whole, text) ← whole? text
  let (fraction, text) ← fraction? text
  let (marked, e, text) ← exponent? text
  let decimal : Decimal :=
    { negative, significand := Decimal.natOfDigits (whole ++ fraction),
      exponent := e - fraction.length }
  let infinite := match care, decimal.toDouble with
    | .passing, _ => false
    | .keeping, .finite _ => false
    | .keeping, _ => true
  if infinite then none else some (⟨decimal, fraction.isEmpty && !marked⟩, text)

/-! ### Values -/

/-- Drops a given start of a text. -/
def afterWord? (word : List Char) (text : List Char) : Option (List Char) :=
  if word.isPrefixOf text then some (text.drop word.length) else none

/-- A value that is neither an array nor an object. -/
def scalar? (care : Care) (text : List Char) : Option (Json × List Char) :=
  match text with
  | 'n' :: rest => (afterWord? "ull".toList rest).map (null, ·)
  | 't' :: rest => (afterWord? "rue".toList rest).map (bool true, ·)
  | 'f' :: rest => (afterWord? "alse".toList rest).map (bool false, ·)
  | '"' :: rest => (string? care rest).map fun (s, rest) => (string s, rest)
  | _ => (number? care text).map fun (n, rest) => (number n, rest)

/-- The name of a member and the colon behind it. -/
def name? (care : Care) (text : List Char) : Option (String × List Char) :=
  match skipSpace text with
  | '"' :: rest => do
    let (name, rest) ← string? care rest
    match skipSpace rest with
    | ':' :: rest => some (name, rest)
    | _ => none
  | _ => none

mutual

/-- The value at the start of a text. `depth` counts the levels of nesting that are still allowed;
every step of the reading uses up some `fuel`. -/
def value? (care : Care) : (fuel depth : Nat) → List Char → Option (Json × List Char)
  | 0, _, _ => none
  | fuel + 1, depth, text =>
    match skipSpace text with
    | '[' :: rest =>
      match depth with
      | 0 => none
      | depth + 1 =>
        match skipSpace rest with
        | ']' :: rest => some (array [], rest)
        | rest => (items? care fuel depth rest).map fun (items, rest) => (array items, rest)
    | '{' :: rest =>
      match depth with
      | 0 => none
      | depth + 1 =>
        match skipSpace rest with
        | '}' :: rest => some (object [], rest)
        | rest => (members? care fuel depth rest).map fun (ms, rest) => (object ms, rest)
    | text => scalar? care text

/-- The items of an array up to its closing bracket; there is at least one. -/
def items? (care : Care) : (fuel depth : Nat) → List Char → Option (List Json × List Char)
  | 0, _, _ => none
  | fuel + 1, depth, text => do
    let (item, rest) ← value? care fuel depth text
    match skipSpace rest with
    | ']' :: rest => some ([item], rest)
    | ',' :: rest => (items? care fuel depth rest).map fun (items, rest) => (item :: items, rest)
    | _ => none

/-- The members of an object up to its closing brace; there is at least one. -/
def members? (care : Care) :
    (fuel depth : Nat) → List Char → Option (List (String × Json) × List Char)
  | 0, _, _ => none
  | fuel + 1, depth, text => do
    let (name, rest) ← name? care text
    let (value, rest) ← value? care fuel depth rest
    match skipSpace rest with
    | '}' :: rest => some ([(name, value)], rest)
    | ',' :: rest =>
      (members? care fuel depth rest).map fun (ms, rest) => ((name, value) :: ms, rest)
    | _ => none

end

/-- How many levels of nesting a text may have. -/
def depthLimit : Nat := 127

/-- Fuel for a text: no step but the one into a first item or member leaves the text as long. -/
def fuelFor (text : List Char) : Nat := 2 * text.length + 2

end Reader

/-- The value that a whole text stands for. -/
def ofText? (text : List Char) : Option Json :=
  match Reader.value? .keeping (Reader.fuelFor text) Reader.depthLimit text with
  | some (value, rest) => if (Reader.skipSpace rest).isEmpty then some value else none
  | none => none

end Rulebook.Json
