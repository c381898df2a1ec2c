/-!
What is counted.

* `Counters.bump`: adds one to a counter; a counter that was never bumped stands at zero and is not
  listed.
* `Counters.get_bump`: what that does to each counter.
* `Counter.toText`: name and labels of a counter.
-/

namespace Rulebook

/-- A counter. -/
inductive Counter where
  /-- Requests by method, path and the status they were answered with. -/
  | requests (method path : String) (status : Nat)
  /-- Verdicts by their outcome. -/
  | evaluations (matched : Bool)
  /-- Refused rule texts by the code of the cause. -/
  | parseFailures (code : String)
  deriving DecidableEq, Repr

namespace Counter

/-- The value of a label up to the quote that closes it. Line breaks and quotes are escaped; so is a
backslash, unless it escapes a backslash or a quote already. `pending` says that a backslash has been
read and not written yet. -/
def labelChars (pending : Bool) : List Char → List Char
  | [] => if pending then ['\\', '\\'] else []
  | '\n' :: rest => '\\' :: 'n' :: labelChars pending rest
  | '"' :: rest => '\\' :: '"' :: labelChars false rest
  | '\\' :: rest => if pending then '\\' :: '\\' :: labelChars false rest else labelChars true rest
  | c :: rest => (if pending then ['\\', '\\', c] else [c]) ++ labelChars false rest

/-- The value of a label in quotes. -/
def labelText (s : String) : String := String.ofList ('"' :: labelChars false s.toList ++ ['"'])

/-- The name of what a counter counts. -/
def name : Counter → String
  | requests .. => "http_requests_total"
  | evaluations _ => "rule_evaluations_total"
  | parseFailures _ => "rule_parse_failures_total"

/-- The labels of a counter. -/
def labels : Counter → List (String × String)
  | requests method path status => [("method", method), ("path", path), ("status", toString status)]
  | evaluations matched => [("matched", if matched then "true" else "false")]
  | parseFailures code => [("code", code)]

/-- Labels between braces. -/
def labelsText (labels : List (String × String)) : String :=
  "\x7b" ++ ",".intercalate (labels.map fun (name, value) => name ++ "=" ++ labelText value) ++ "\x7d"

/-- Name and labels of a counter. -/
def toText (c : Counter) : String := c.name ++ labelsText c.labels

end Counter

/-- The counters that were bumped, with how often. -/
structure Counters where
  entries : List (Counter × Nat) := []
  deriving DecidableEq, Repr, Inhabited

namespace Counters

/-- How often a counter was bumped. -/
def get (cs : Counters) (c : Counter) : Nat := (cs.entries.lookup c).getD 0

/-- Adds one to an entry. -/
def bumpEntries (c : Counter) : List (Counter × Nat) → List (Counter × Nat)
  | [] => [(c, 1)]
  | (d, n) :: rest => if c = d then (d, n + 1) :: rest else (d, n) :: bumpEntries c rest

/-- Adds one to a counter. -/
def bump (cs : Counters) (c : Counter) : Counters := ⟨bumpEntries c cs.entries⟩

theorem lookup_bumpEntries (c d : Counter) (entries : List (Counter × Nat)) :
    ((bumpEntries c entries).lookup d).getD 0 =
      (entries.lookup d).getD 0 + if c = d then 1 else 0 := by
  induction entries with
  | nil =>
    by_cases same : c = d
    · subst same
      simp [bumpEntries]
    · have apart : (d == c) = false := by simpa using Ne.symm same
      simp only [bumpEntries, List.lookup_cons, List.lookup_nil, apart, same, if_false,
        Option.getD_none]
  | cons entry rest ih =>
    obtain ⟨e, n⟩ := entry
    unfold bumpEntries
    split
    · next isFirst =>
      subst isFirst
      by_cases same : c = d
      · subst same
        simp
      · have apart : (d == c) = false := by simpa using Ne.symm same
        simp only [List.lookup_cons, apart, same, if_false, Nat.add_zero]
    · next notFirst =>
      cases found : d == e
      · simpa only [List.lookup_cons, found] using ih
      · have isFound : d = e := by simpa using found
        have apart : ¬ c = d := fun same => notFirst (same.trans isFound)
        simp only [List.lookup_cons, found, apart, if_false, Nat.add_zero]

/-- Bumping a counter adds one to it and leaves the others alone. -/
theorem get_bump (cs : Counters) (c d : Counter) :
    (cs.bump c).get d = cs.get d + if c = d then 1 else 0 :=
  lookup_bumpEntries c d cs.entries

/-- A line for each counter, with its count. -/
def lines (cs : Counters) : List String :=
  cs.entries.map fun (c, n) => c.toText ++ " " ++ toString n

end Counters
end Rulebook
