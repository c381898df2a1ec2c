import Rulebook.Number.Double

/-!
The shortest decimal text of a double.

The reals that round to a finite double form an interval around it. The shortest text takes the
first number of digits with which some decimal lies in that interval, and of two such decimals the
nearer one; which of two equally near ones is taken is left to the style.

* `Shortest.digits`: the digits and their exponent.
* `Style.render`: the text of a finite double in a style.
-/

namespace Rulebook.Shortest

/-- The interval of reals that round to a number of units, in quarters of a unit. -/
structure Interval where
  low : Nat
  value : Nat
  high : Nat
  /-- Whether the ends round to the number as well. -/
  closed : Bool

/-- The interval of a positive number of units with 53 significant bits. Below a power of two the
neighbouring double is half as far away as above it. -/
def Interval.ofUnits (units : Nat) : Interval :=
  let step := Nat.pow 2 (Double.surplusBits units)
  let below := if 1 < step && units == Nat.pow 2 (Nat.log2 units) then step else 2 * step
  { low := 4 * units - below, value := 4 * units, high := 4 * units + 2 * step,
    closed := units / step % 2 == 0 }

/-- `n · 10^e` in quarters of a unit, as a quotient. -/
def scaled (n : Nat) (e : Int) : Nat × Nat :=
  match e with
  | .ofNat e => (n * Nat.pow 10 e * Nat.pow 2 1076, 1)
  | .negSucc e => (n * Nat.pow 2 1076, Nat.pow 10 (e + 1))

/-- Whether `n · 10^e` rounds to the number. -/
def Interval.holds (i : Interval) (n : Nat) (e : Int) : Bool :=
  let (num, den) := scaled n e
  if i.closed then i.low * den ≤ num && num ≤ i.high * den
  else i.low * den < num && num < i.high * den

/-- The largest `n` with `n · 10^e` at most the number. -/
def Interval.floor (i : Interval) (e : Int) : Nat :=
  let (num, den) := scaled 1 e
  i.value * den / num

/-- Twice the number less the sum of `n · 10^e` and its successor: negative when the number is
nearer to the former. -/
def Interval.bias (i : Interval) (n : Nat) (e : Int) : Int :=
  let (num, den) := scaled (2 * n + 1) e
  (2 * i.value * den : Nat) - (num : Int)

/-- How many decimal digits a number has; zero has one. -/
def length (n : Nat) : Nat := (Nat.toDigits 10 n).length

/-- The exponent of the leading digit of a positive number of quarter units. -/
def leadingExponent (quarters : Nat) : Int :=
  (length (quarters * Nat.pow 10 400 / Nat.pow 2 1076) : Int) - 401

/-- The decimal with exponent `e` that stands for the number, if there is one. -/
def Interval.atExponent? (i : Interval) (tieUp : Bool) (e : Int) : Option Nat :=
  let n := i.floor e
  match i.holds n e, i.holds (n + 1) e with
  | false, false => none
  | true, false => some n
  | false, true => some (n + 1)
  | true, true =>
    let bias := i.bias n e
    if 0 < bias then some (n + 1)
    else if bias < 0 then some n
    else if tieUp || n % 2 == 1 then some (n + 1) else some n

/-- Tries the exponents downwards; seventeen digits always suffice. -/
def search (i : Interval) (tieUp : Bool) (e : Int) : Nat → Nat × Int
  | 0 => (i.floor e, e)
  | tries + 1 =>
    match i.atExponent? tieUp e with
    | some n => (n, e)
    | none => search i tieUp (e - 1) tries

/-- Moves the zeros at the end into the exponent. -/
def dropZeros (n : Nat) (e : Int) : Nat → Nat × Int
  | 0 => (n, e)
  | tries + 1 => if n % 10 == 0 then dropZeros (n / 10) (e + 1) tries else (n, e)

/-- The shortest decimal `n · 10^e` that rounds to a positive number of units. -/
def digits (tieUp : Bool) (units : Nat) : Nat × Int :=
  let i := Interval.ofUnits units
  let (n, e) := search i tieUp (leadingExponent i.value) 17
  dropZeros n e 17

/-- How the digits of a double are laid out. -/
structure Style where
  /-- Of two equally near decimals the larger is taken; otherwise the even one. -/
  tieUp : Bool
  /-- Whether a whole number ends in `.0`. -/
  pointAlways : Bool
  /-- The exponents of the leading digit, as `low < exponent < high`, that are written without an
  exponent part; `none` for all. -/
  positional : Option (Int × Int)

namespace Style

/-- Digits with the point `places` places from their end. -/
def positionalText (s : Style) (digits : List Char) (places : Int) : List Char :=
  match places with
  | .ofNat 0 => digits ++ if s.pointAlways then ['.', '0'] else []
  | .negSucc zeros =>
    digits ++ List.replicate (zeros + 1) '0' ++ if s.pointAlways then ['.', '0'] else []
  | .ofNat places =>
    if places < digits.length then
      digits.take (digits.length - places) ++ '.' :: digits.drop (digits.length - places)
    else '0' :: '.' :: List.replicate (places - digits.length) '0' ++ digits

/-- One digit before the point, and the exponent behind an `e`. -/
def exponentText (digits : List Char) (leading : Int) : List Char :=
  let mantissa :=
    match digits with
    | d :: e :: rest => d :: '.' :: e :: rest
    | short => short
  mantissa ++ 'e' :: (toString leading).toList

/-- The text of a number of units. -/
def magnitudeText (s : Style) (units : Nat) : List Char :=
  if units == 0 then s.positionalText ['0'] 0
  else
    let (n, e) := digits s.tieUp units
    let text := Nat.toDigits 10 n
    let leading := e + text.length - 1
    match s.positional with
    | none => s.positionalText text (-e)
    | some (low, high) =>
      if low < leading && leading < high then s.positionalText text (-e)
      else exponentText text leading

/-- The text of a finite double with a sign of its own, so that the two zeros differ. -/
def render (s : Style) (negative : Bool) (units : Nat) : String :=
  String.ofList (if negative then '-' :: s.magnitudeText units else s.magnitudeText units)

end Style
end Rulebook.Shortest
