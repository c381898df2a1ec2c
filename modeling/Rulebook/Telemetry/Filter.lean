import Rulebook.Telemetry.Event
import Rulebook.Text.Cut
import Rulebook.Text.Trim

/-!
Which events are logged.

A filter is a list of directives, separated by commas: a threshold for everything, or a threshold
for the sources whose path starts with a given text. The longest text that fits decides; where none
fits, nothing is logged. An event passes a threshold that is at least as talkative as its level.

* `Filter.ofText?`: the filter that a text is.
* `Filter.choose`: the first text that is a filter, of an override and a default.
* `Filter.passes`: whether an event passes.
* `Filter.toText`: the filter in text, the longest start of a path first.
-/

namespace Rulebook

/-- What is let through: nothing, or every event up to a level. -/
abbrev Threshold := Option Level

namespace Threshold

/-- The name of a threshold. -/
def name : Threshold → String
  | none => "off"
  | some level => Text.small level.name

/-- Lets through what is at most as talkative. -/
def admits (t : Threshold) (level : Level) : Bool :=
  match t with
  | none => false
  | some most => level.rank ≤ most.rank

/-- The threshold with a number. -/
def ofNumber? : Nat → Option Threshold
  | 0 => some none
  | 1 => some (some .error)
  | 2 => some (some .warn)
  | 3 => some (some .info)
  | 4 => some (some .debug)
  | 5 => some (some .trace)
  | _ => none

/-- The threshold with a name, in any letter case, or with a number in digits. -/
def ofText? (text : String) : Option Threshold :=
  match Text.small text with
  | "off" => some none
  | "error" => some (some .error)
  | "warn" => some (some .warn)
  | "info" => some (some .info)
  | "debug" => some (some .debug)
  | "trace" => some (some .trace)
  | _ => Decimal.plainDigits? text.toList >>= ofNumber?

end Threshold

/-- A threshold for the sources whose path starts with a text; without a text, for all. -/
structure Directive where
  start : Option String
  threshold : Threshold
  deriving DecidableEq, Repr

namespace Directive

/-- Whether a directive can begin with a character. -/
def isFirst (c : Char) : Bool := Text.isAlphanumeric c || c = '-' || c = ':' || c = '_'

/-- Whether a text has the form of a directive: behind blanks it begins as one does, and it has no
bracket, so it is not about spans. -/
def isWellFormed (text : List Char) : Bool :=
  (Text.trimStart text).head?.any isFirst && !text.contains '['

/-- The directive that a text is: a threshold, the start of a path and a threshold, or the start of
a path alone, which lets everything through. Blanks belong to the path, and there can be none before
a path with a threshold. -/
def ofText? (text : List Char) : Option Directive :=
  if !isWellFormed text then none
  else match text.dropWhile (· != '=') with
    | [] =>
      match Threshold.ofText? (String.ofList text) with
      | some threshold => some ⟨none, threshold⟩
      | none => some ⟨some (String.ofList text), some .trace⟩
    | _ :: level =>
      let start := String.ofList (text.takeWhile (· != '='))
      if text.head?.any Text.isBlank then none
      else if level.isEmpty then some ⟨some start, some .trace⟩
      else (Threshold.ofText? (String.ofList level)).map (⟨some start, ·⟩)

/-- The order of directives: a longer text first, and of two of one length the greater. -/
def before (a b : Directive) : Bool :=
  match a.start, b.start with
  | some s, some t => t.utf8ByteSize < s.utf8ByteSize || (s.utf8ByteSize == t.utf8ByteSize && t < s)
  | some _, none => true
  | none, _ => false

/-- A directive in text. -/
def toText (d : Directive) : String :=
  match d.start with
  | some start => start ++ "=" ++ d.threshold.name
  | none => d.threshold.name

end Directive

/-- Directives, the first that fits being the one that decides. -/
structure Filter where
  directives : List Directive
  deriving DecidableEq, Repr, Inhabited

namespace Filter

/-- Puts a directive into its place; it takes the place of one with the same text. -/
def insert (d : Directive) : List Directive → List Directive
  | [] => [d]
  | e :: rest =>
    if d.start = e.start then d :: rest
    else if d.before e then d :: e :: rest
    else e :: insert d rest

/-- The filter that a text is; a text without directives lets errors through. -/
def ofText? (text : String) : Option Filter := do
  let directives ← ((Text.cut ',' text.toList).filter (!·.isEmpty)).mapM Directive.ofText?
  match directives with
  | [] => some ⟨[⟨none, some .error⟩]⟩
  | _ => some ⟨directives.foldl (fun ds d => insert d ds) []⟩

/-- The first that is a filter of an override, a default and `info`. -/
def choose (override : Option String) (default : String) : Filter :=
  match override.bind ofText? with
  | some filter => filter
  | none => (ofText? default).getD ⟨[⟨none, some .info⟩]⟩

/-- Whether a directive is about a path. -/
def covers (d : Directive) (path : String) : Bool :=
  match d.start with
  | some start => start.toList.isPrefixOf path.toList
  | none => true

/-- Whether an event of a level from a path passes. -/
def admits (f : Filter) (path : String) (level : Level) : Bool :=
  match f.directives.find? (covers · path) with
  | some d => d.threshold.admits level
  | none => false

/-- Whether an event passes. -/
def passes (f : Filter) (e : Event) : Bool := f.admits e.source.path e.level

/-- The filter in text. -/
def toText (f : Filter) : String := ",".intercalate (f.directives.map Directive.toText)

end Filter
end Rulebook
