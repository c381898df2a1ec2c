import Rulebook.Text.Cut

/-!
Media types, as the header of a body names them.

A media type is a type and a subtype with a slash between them, and parameters behind semicolons.
The part of a subtype behind its last plus sign is its suffix. Letter case does not matter in either.

* `MediaType.ofText?`: the media type that a text is.
* `MediaType.isJson`: whether bodies of a media type are JSON.
-/

namespace Rulebook

/-- A media type, without its parameters. -/
structure MediaType where
  kind : String
  subtype : String
  /-- What the subtype says about its syntax. -/
  suffix : Option String
  deriving DecidableEq, Repr, Inhabited

namespace MediaType

/-- Whether a character can stand in a name. -/
def isNameChar (c : Char) : Bool :=
  c.toNat < 128 && (c.isAlphanum || "!#$%&\x27*+-.^_\x60|~".toList.contains c)

/-- Whether a text is the value of a parameter without quotes; only the last one may be empty. -/
def isBareValue (last : Bool) (text : List Char) : Bool :=
  text.all isNameChar && (last || !text.isEmpty)

/-- Whether a character can stand between quotes. -/
def isQuotable (c : Char) : Bool := 31 < c.toNat && c.toNat < 127

/-- Drops the text of a value up to the quote that closes it. -/
def afterQuote? : List Char → Option (List Char)
  | [] => none
  | c :: rest => if c = '"' then some rest else if isQuotable c then afterQuote? rest else none

/-- Drops a value in quotes, of which the opening one is gone. A value is not empty, so a quote
that opens it belongs to it. -/
def afterQuoted? : List Char → Option (List Char)
  | [] => none
  | c :: rest => if isQuotable c then afterQuote? rest else none

/-- Whether a text is a list of parameters, behind the semicolon that begins it. -/
def areParameters : (fuel : Nat) → List Char → Bool
  | 0, _ => false
  | fuel + 1, text =>
    match text.dropWhile (· = ' ') with
    | [] => true
    | text =>
      let name := text.takeWhile isNameChar
      match text.dropWhile isNameChar with
      | '=' :: '"' :: rest =>
        !name.isEmpty &&
          match (afterQuoted? rest).map (·.dropWhile (· = ' ')) with
          | some [] => true
          | some (';' :: rest) => areParameters fuel rest
          | _ => false
      | '=' :: rest =>
        !name.isEmpty &&
          match rest.dropWhile (· ≠ ';') with
          | [] => isBareValue true rest
          | _ :: others => isBareValue false (rest.takeWhile (· ≠ ';')) && areParameters fuel others
      | _ => false

/-- The subtype in front of the last plus sign and the suffix behind it. A plus sign that a subtype
begins with belongs to it. -/
def splitSuffix (text : List Char) : List Char × Option (List Char) :=
  let suffix := (text.reverse.takeWhile (· ≠ '+')).reverse
  let front := text.take (text.length - suffix.length - 1)
  if suffix.length < text.length && !front.isEmpty then (front, some suffix) else (text, none)

/-- A name, whose letter case does not matter. -/
def nameOf (name : List Char) : String := Text.small (String.ofList name)

/-- The media type that a text is. -/
def ofText? (text : String) : Option MediaType :=
  let kind := text.toList.takeWhile isNameChar
  match text.toList.dropWhile isNameChar with
  | '/' :: rest =>
    let name := rest.takeWhile isNameChar
    let (subtype, suffix) := splitSuffix name
    let parameters := match rest.dropWhile isNameChar with
      | [] => true
      | ';' :: rest => areParameters (rest.length + 1) rest
      | _ => false
    if !kind.isEmpty && !name.isEmpty && parameters then
      some ⟨nameOf kind, nameOf subtype, suffix.map nameOf⟩
    else none
  | _ => none

/-- Whether bodies of a media type are JSON. -/
def isJson (m : MediaType) : Bool :=
  m.kind = "application" && (m.subtype = "json" || m.suffix = some "json")

/-- Whether a text is a media type of JSON bodies. -/
def namesJson (text : String) : Bool := (ofText? text).any isJson

end MediaType
end Rulebook
