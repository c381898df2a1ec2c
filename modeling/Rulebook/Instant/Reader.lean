import Rulebook.Instant.Basic
import Rulebook.Number.Decimal
import Rulebook.Text.Trim

/-!
Reading the text of an instant: date, `T` or a space, time of day, and the offset from universal
time.

The text may be looser than the one that is written. Months, days, hours, minutes and seconds have
one or two digits, a year has up to four, or any number of them behind a sign. There may be blanks
before each number, before the marks between them, around the offset and inside it. Universal time
is `Z` or `UTC`, in either letter case.

* `Instant.ofText?`: the instant of a text. The date and the time of day have to exist, where a
  second 60 is a leap second, and both the local time and the universal one have to be in the
  calendar.
-/

namespace Rulebook.Instant

/-- A number of at most `most` digits at the start, and the text behind it. -/
def digits? (most : Nat) (text : List Char) : Option (Nat × List Char) :=
  let digits := (text.take most).takeWhile Text.isAsciiDigit
  if digits.isEmpty then none
  else some (Decimal.natOfDigits digits, text.drop digits.length)

/-- A number of one or two digits behind blanks, and the text behind it. -/
def part? (text : List Char) : Option (Nat × List Char) := digits? 2 (Text.trimStart text)

/-- A year behind blanks, and the text behind it. -/
def year? (text : List Char) : Option (Int × List Char) :=
  match Text.trimStart text with
  | '-' :: rest => (digits? rest.length rest).map fun (n, rest) => (-(n : Int), rest)
  | '+' :: rest => (digits? rest.length rest).map fun (n, rest) => ((n : Int), rest)
  | text => (digits? 4 text).map fun (n, rest) => ((n : Int), rest)

/-- Drops blanks and a mark that has to stand behind them. -/
def afterMark? (mark : Char) (text : List Char) : Option (List Char) :=
  match Text.trimStart text with
  | c :: rest => if c = mark then some rest else none
  | [] => none

/-- A date in days since the beginning of 1970, and the text behind it. -/
def date? (text : List Char) : Option (Int × List Char) := do
  let (year, text) ← year? text
  let (month, text) ← part? (← afterMark? '-' text)
  let (day, text) ← part? (← afterMark? '-' text)
  if 1 ≤ month && month ≤ 12 && 1 ≤ day && day ≤ daysInMonth year month then
    some (daysOfDate year month day, text)
  else none

/-- Drops the one character between the date and the time of day. -/
def afterDate? : List Char → Option (List Char)
  | 'T' :: rest => some rest
  | 't' :: rest => some rest
  | ' ' :: rest => some rest
  | _ => none

/-- The decimals of a second in billionths, and the text behind them; there may be none, and those
beyond nine are cut off. -/
def fraction? : List Char → Option (Nat × List Char)
  | '.' :: rest =>
    let (digits, rest) := Decimal.spanDigits rest
    if digits.isEmpty then none
    else some (Decimal.natOfDigits ((digits ++ List.replicate 9 '0').take 9), rest)
  | text => some (0, text)

/-- A time of day in seconds and billionths, and the text behind it. -/
def timeOfDay? (text : List Char) : Option (Nat × Nat × List Char) := do
  let (hour, text) ← part? text
  let (minute, text) ← part? (← afterMark? ':' text)
  let (second, text) ← part? (← afterMark? ':' text)
  let (nanos, text) ← fraction? text
  if hour < 24 && minute < 60 && second ≤ 60 then
    let whole := min second 59
    some (3600 * hour + 60 * minute + whole, nanos + (second - whole) * 1000000000, text)
  else none

/-- A number of exactly two digits, and the text behind it. -/
def twoDigits? : List Char → Option (Nat × List Char)
  | c :: d :: rest =>
    if Text.isAsciiDigit c && Text.isAsciiDigit d then some (Decimal.natOfDigits [c, d], rest)
    else none
  | _ => none

/-- Hours and minutes in seconds, and the text behind them. Between the two may stand colons and
blanks, as many as there are. -/
def hoursAndMinutes? (text : List Char) : Option (Int × List Char) := do
  let (hours, text) ← twoDigits? text
  let (minutes, text) ← twoDigits? (text.dropWhile fun c => c = ':' || Text.isBlank c)
  if hours < 24 && minutes < 60 then some (3600 * hours + 60 * minutes, text) else none

/-- An offset from universal time in seconds, and the text behind it. A minus may also be the
longer sign U+2212. -/
def offset? (text : List Char) : Option (Int × List Char) :=
  if (text.take 3).map Char.toLower = ['u', 't', 'c'] then some (0, text.drop 3)
  else match text with
    | 'Z' :: rest => some (0, rest)
    | 'z' :: rest => some (0, rest)
    | '+' :: rest => hoursAndMinutes? rest
    | '-' :: rest => (hoursAndMinutes? rest).map fun (seconds, rest) => (-seconds, rest)
    | '\u2212' :: rest => (hoursAndMinutes? rest).map fun (seconds, rest) => (-seconds, rest)
    | _ => none

/-- The instant of a local time at an offset. -/
def ofLocal? (seconds offset : Int) (nanos : Nat) : Option Instant :=
  if inCalendar seconds && inCalendar (seconds - offset) then
    some { seconds := seconds - offset, nanos }
  else none

/-- The instant of a text. -/
def ofText? (text : String) : Option Instant := do
  let (days, text) ← date? text.toList
  let (secondOfDay, nanos, text) ← timeOfDay? (← afterDate? text)
  let (offset, text) ← offset? (Text.trimStart text)
  if (Text.trimStart text).isEmpty then ofLocal? (86400 * days + secondOfDay) offset nanos else none

end Rulebook.Instant
