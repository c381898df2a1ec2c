import Rulebook.Proofs.Token.Scan

/-!
A text as tokens with blanks between them.

A division of a text says what has to be found in it without saying how: every character is part of
a token or a blank, fragments hold no delimiter and have a delimiter between them, and the word of a
connective counts only where it stands for itself. Every text has a division, all its divisions have
the same tokens, and these cut no word of the text.

* `Division`: a text is divided into tokens and the blanks around them.
* `Division.cons`, `Division.tail`: a division is put together from its first token on.
* `Division.scan`: the tokens of every division of a text are those that are scanned.
* `exists_division`: every text has a division.
* `Division.seams`: no token begins or ends inside a word.
* `Token.ofText?_division`: the tokens of a text are those of its divisions.
-/

namespace Rulebook

open Text

namespace Token

/-- The characters of a token. -/
def spelling : Token → List Char
  | openParen => ['(']
  | closeParen => [')']
  | connective op => op.keyword.toList
  | fragment s => s.toList

/-- Whether a token is a fragment. -/
def isFragment : Token → Bool
  | fragment _ => true
  | _ => false

/-- A token with the text behind it, up to the next token. -/
structure Part where
  token : Token
  gap : List Char

/-- The text of some parts, one behind the other. -/
def spell (parts : List Part) : List Char := parts.flatMap fun p => p.token.spelling ++ p.gap

@[simp] theorem spell_nil : spell [] = [] := rfl

@[simp] theorem spell_cons (p : Part) (rest : List Part) :
    spell (p :: rest) = p.token.spelling ++ (p.gap ++ spell rest) := by
  simp [spell]

theorem spell_append (front back : List Part) :
    spell (front ++ back) = spell front ++ spell back := by
  simp [spell]

/-- A text that can stand between two delimiters, without the blanks around it. -/
structure Undivided (text : List Char) : Prop where
  full : text ≠ []
  starts : ∀ c ∈ text.head?, isBlank c = false
  ends : ∀ c ∈ text.getLast?, isBlank c = false
  noOpen : '(' ∉ text
  noClose : ')' ∉ text
  noConnective : ∀ op : Connective, ¬ StandsIn op.keyword.toList text

/-- **A text is divided into tokens and the blanks around them.** -/
structure Division (text lead : List Char) (parts : List Part) : Prop where
  whole : text = lead ++ spell parts
  lead_blank : ∀ c ∈ lead, isBlank c = true
  gap_blank : ∀ p ∈ parts, ∀ c ∈ p.gap, isBlank c = true
  /-- No two fragments are adjacent. -/
  apart : parts.IsChain fun p q => ¬ (p.token.isFragment = true ∧ q.token.isFragment = true)
  fragments : ∀ p ∈ parts, ∀ s, p.token = fragment s → Undivided s.toList
  /-- A connective has a boundary on both sides of its word, where it stands in the text. -/
  connectives : ∀ front op gap back, parts = front ++ ⟨connective op, gap⟩ :: back →
    Boundary (lead ++ spell front) (op.keyword.toList ++ (gap ++ spell back)) ∧
      Boundary (lead ++ spell front ++ op.keyword.toList) (gap ++ spell back)

/-! ### Seams -/

theorem boundaries_keyword_iff {before after : List Char} (op : Connective) :
    (Boundary before (op.keyword.toList ++ after) ∧ Boundary (before ++ op.keyword.toList) after) ↔
      endsInWord before = false ∧ startsInWord after = false := by
  have ne := (Condition.isName_iff.mp op.isName_keyword).1
  rw [Boundary, Boundary, startsInWord_append ne, endsInWord_append ne,
    Condition.startsInWord_of_isName op.isName_keyword,
    Condition.endsInWord_of_isName op.isName_keyword]
  simp

theorem endsInWord_of_append {front back : List Char} (h : endsInWord (front ++ back) = false) :
    endsInWord back = false := by
  cases back with
  | nil => rfl
  | cons c rest => rwa [endsInWord_append (by simp)] at h

theorem startsInWord_blanks_append {gap rest : List Char} (blank : ∀ c ∈ gap, isBlank c = true)
    (next : startsInWord rest = false) : startsInWord (gap ++ rest) = false := by
  cases gap with
  | nil => exact next
  | cons c others => exact isWord_eq_false_of_isBlank (blank c (by simp))

theorem Undivided.plain {text : List Char} (h : Undivided text) : Plain text :=
  plain_iff.mpr ⟨h.noOpen, h.noClose, h.noConnective⟩

variable {text rest lead gap : List Char} {parts front back : List Part} {p q : Part} {t : Token}

theorem spelling_ne_nil (full : ∀ s, t = fragment s → Undivided s.toList) : t.spelling ≠ [] := by
  cases t with
  | openParen => simp [spelling]
  | closeParen => simp [spelling]
  | connective op => exact (Condition.isName_iff.mp op.isName_keyword).1
  | fragment s => exact (full s rfl).full

/-! ### Taking a division apart -/

/-- **What stands behind the first token of a division is divided by the rest of it.** -/
theorem Division.tail (h : Division text lead (p :: parts)) :
    Division (p.gap ++ spell parts) p.gap parts where
  whole := rfl
  lead_blank := h.gap_blank p List.mem_cons_self
  gap_blank q mem := h.gap_blank q (List.mem_cons_of_mem p mem)
  apart := h.apart.tail
  fragments q mem := h.fragments q (List.mem_cons_of_mem p mem)
  connectives := by
    intro front op gap back split
    have bounds := h.connectives (p :: front) op gap back (by rw [split, List.cons_append])
    rw [boundaries_keyword_iff] at bounds ⊢
    obtain ⟨left, right⟩ := bounds
    rw [spell_cons, ← List.append_assoc] at left
    exact ⟨endsInWord_of_append left, right⟩

/-- **No word goes across the end of the first token.** -/
theorem Division.seam (h : Division text lead (p :: parts)) :
    endsInWord p.token.spelling = false ∨ startsInWord (p.gap ++ spell parts) = false := by
  have blank := h.gap_blank p List.mem_cons_self
  cases is : p.token with
  | openParen => exact .inl rfl
  | closeParen => exact .inl rfl
  | connective op =>
    obtain ⟨token, gap⟩ := p
    obtain rfl : token = connective op := is
    have bounds := h.connectives [] op gap parts rfl
    exact .inr ((boundaries_keyword_iff op).mp bounds).2
  | fragment s =>
    -- Behind a fragment there are blanks, a parenthesis, or a word that stands for itself.
    cases parts with
    | nil => exact .inr (startsInWord_blanks_append blank rfl)
    | cons q others =>
      have apart : ¬ (p.token.isFragment = true ∧ q.token.isFragment = true) := h.apart.rel
      cases next : q.token with
      | openParen =>
        apply Or.inr
        apply startsInWord_blanks_append blank
        rw [spell_cons, next]
        rfl
      | closeParen =>
        apply Or.inr
        apply startsInWord_blanks_append blank
        rw [spell_cons, next]
        rfl
      | connective op =>
        by_cases none : p.gap = []
        · obtain ⟨token, gap⟩ := q
          obtain rfl : token = connective op := next
          have bounds := h.connectives [p] op gap others rfl
          have left := ((boundaries_keyword_iff op).mp bounds).1
          rw [spell_cons, none, is] at left
          apply Or.inl
          simpa using endsInWord_of_append left
        · apply Or.inr
          rw [startsInWord_append none]
          exact startsInWord_of_blanks blank
      | fragment s' =>
        rw [is, next] at apart
        exact absurd ⟨rfl, rfl⟩ apart

/-- No word goes across the beginning of the second token. -/
theorem Division.seam_next (h : Division text lead (p :: q :: parts)) :
    endsInWord (p.token.spelling ++ p.gap) = false ∨ startsInWord q.token.spelling = false := by
  by_cases none : p.gap = []
  · have ne : q.token.spelling ≠ [] := spelling_ne_nil (h.fragments q (by simp))
    have seam := h.seam
    rw [none, List.nil_append, spell_cons, startsInWord_append ne] at seam
    rw [none, List.append_nil]
    exact seam
  · apply Or.inl
    rw [endsInWord_append none]
    exact endsInWord_of_blanks (h.gap_blank p (by simp))

/-- **No token of a division begins or ends inside a word.** -/
theorem Division.seams (h : Division text lead parts) (split : parts = front ++ p :: back) :
    (endsInWord (lead ++ spell front) = false ∨ startsInWord p.token.spelling = false) ∧
      (endsInWord p.token.spelling = false ∨ startsInWord (p.gap ++ spell back) = false) := by
  subst split
  induction front generalizing text lead with
  | nil =>
    rw [spell_nil, List.append_nil]
    exact ⟨.inl (endsInWord_of_blanks h.lead_blank), h.seam⟩
  | cons first others ih =>
    obtain ⟨left, right⟩ := ih h.tail
    refine ⟨?_, right⟩
    rw [spell_cons, ← List.append_assoc]
    cases others with
    | nil =>
      have full : first.token.spelling ≠ [] := spelling_ne_nil (h.fragments first (by simp))
      rw [spell_nil, List.append_nil, List.append_assoc, endsInWord_append (by simp [full])]
      exact h.seam_next
    | cons second behind =>
      have full : second.token.spelling ≠ [] := spelling_ne_nil (h.fragments second (by simp))
      have rest : first.gap ++ spell (second :: behind) ≠ [] := by simp [full]
      rw [endsInWord_append rest]
      exact left

/-! ### Putting a division together -/

/-- **A token in front of a divided text, with nothing but blanks before it.** -/
theorem Division.cons (h : Division rest gap parts) (blank : ∀ c ∈ lead, isBlank c = true)
    (seam : endsInWord t.spelling = false ∨ startsInWord rest = false)
    (full : ∀ s, t = fragment s → Undivided s.toList)
    (apart : t.isFragment = true → ∀ p ∈ parts.head?, p.token.isFragment = false) :
    Division (lead ++ t.spelling ++ rest) lead (⟨t, gap⟩ :: parts) where
  whole := by rw [h.whole, spell_cons, List.append_assoc]
  lead_blank := blank
  gap_blank := by
    intro q mem
    rcases List.mem_cons.mp mem with rfl | mem
    · exact h.lead_blank
    · exact h.gap_blank q mem
  apart := by
    refine List.isChain_cons.mpr ⟨?_, h.apart⟩
    rintro q first ⟨isFragment, isFragment'⟩
    rw [apart isFragment q first] at isFragment'
    cases isFragment'
  fragments := by
    intro q mem s is
    rcases List.mem_cons.mp mem with rfl | mem
    · exact full s is
    · exact h.fragments q mem s is
  connectives := by
    intro front op gap' back split
    rw [boundaries_keyword_iff]
    cases front with
    | nil =>
      obtain ⟨rfl, rfl, rfl⟩ : t = connective op ∧ gap = gap' ∧ parts = back := by
        simpa [and_assoc] using split
      have ends := Condition.endsInWord_of_isName op.isName_keyword
      rw [spell_nil, List.append_nil, ← h.whole]
      refine ⟨endsInWord_of_blanks blank, seam.resolve_left ?_⟩
      change endsInWord op.keyword.toList ≠ false
      rw [ends]
      nofun
    | cons first others =>
      obtain ⟨rfl, split'⟩ := List.cons.inj (split.trans (List.cons_append ..))
      have bounds := (boundaries_keyword_iff op).mp (h.connectives others op gap' back split')
      obtain ⟨left, right⟩ := bounds
      refine ⟨?_, right⟩
      rw [spell_cons, ← List.append_assoc]
      by_cases none : gap ++ spell others = []
      · -- The word of the connective stands right behind the token.
        rw [none, List.append_nil]
        have starts : startsInWord rest = true := by
          rw [h.whole, split', spell_append, ← List.append_assoc, none, List.nil_append, spell_cons]
          change startsInWord (op.keyword.toList ++ _) = true
          rw [startsInWord_append (Condition.isName_iff.mp op.isName_keyword).1]
          exact Condition.startsInWord_of_isName op.isName_keyword
        rw [endsInWord_append (spelling_ne_nil full)]
        apply seam.resolve_right
        rw [starts]
        nofun
      · rw [endsInWord_append none]
        exact left

/-! ### Divisions and scans -/

theorem scan_blanks_append (blank : ∀ c ∈ lead, isBlank c = true) (text : List Char) :
    scan (lead ++ text) = scan text := by
  induction lead with
  | nil => rfl
  | cons c others ih =>
    rw [List.cons_append, scan_cons_blank (blank c (by simp))]
    exact ih fun d mem => blank d (by simp [mem])

theorem scan_append_blanks (blank : ∀ c ∈ gap, isBlank c = true) (text : List Char) :
    scan (text ++ gap) = scan text := by
  induction gap generalizing text with
  | nil => rw [List.append_nil]
  | cons c others ih =>
    rw [List.append_cons, ih fun d mem => blank d (by simp [mem])]
    exact scan_concat_blank (blank c (by simp)) text

/-- **A delimiter splits a scan,** if no word goes across its ends. -/
theorem scan_append_delimiter {before after : List Char} (delimiter : t.isFragment = false)
    (left : endsInWord before = false ∨ startsInWord t.spelling = false)
    (right : endsInWord t.spelling = false ∨ startsInWord after = false) :
    scan (before ++ (t.spelling ++ after)) = scan before ++ t :: scan after := by
  cases t with
  | openParen => exact scan_append_openParen before after
  | closeParen => exact scan_append_closeParen before after
  | connective op =>
    have starts := Condition.startsInWord_of_isName op.isName_keyword
    have ends := Condition.endsInWord_of_isName op.isName_keyword
    rw [← List.append_assoc]
    apply scan_append_keyword op
    · exact left.resolve_right (by simp [spelling, starts])
    · exact right.resolve_left (by simp [spelling, ends])
  | fragment s => cases delimiter

/-- A fragment is scanned for itself. -/
theorem Undivided.scan {s : String} (h : Undivided s.toList) : scan s.toList = [fragment s] := by
  rw [scan_of_plain_solid h.plain h.full (trim_eq_self h.starts h.ends), String.ofList_toList]

/-- **The tokens of every division of a text are those that are scanned.** -/
theorem Division.scan (h : Division text lead parts) : scan text = parts.map (·.token) := by
  induction parts generalizing text lead with
  | nil =>
    rw [h.whole, spell_nil, List.append_nil]
    exact scan_of_blanks h.lead_blank
  | cons p rest ih =>
    have later := ih h.tail
    have gapBlank := h.gap_blank p List.mem_cons_self
    rw [h.whole, scan_blanks_append h.lead_blank, spell_cons, List.map_cons]
    cases kind : p.token.isFragment with
    | false =>
      have split := scan_append_delimiter kind (.inl (rfl : endsInWord [] = false)) h.seam
      rw [List.nil_append, later] at split
      exact split
    | true =>
      obtain ⟨s, is⟩ : ∃ s, p.token = fragment s := by
        cases is : p.token <;> simp_all [isFragment]
      have solid := h.fragments p List.mem_cons_self s is
      have alone : Token.scan (p.token.spelling ++ p.gap) = [p.token] := by
        rw [scan_append_blanks gapBlank, is]
        exact solid.scan
      cases rest with
      | nil =>
        rw [spell_nil, List.append_nil]
        exact alone
      | cons q others =>
        -- The next token is a delimiter, so it splits the scan with and without the fragment.
        have delimiter : q.token.isFragment = false := by
          apply Bool.eq_false_iff.mpr
          intro again
          exact h.apart.rel ⟨kind, again⟩
        have blankEnd : endsInWord p.gap = false := endsInWord_of_blanks gapBlank
        rw [spell_cons, scan_append_delimiter delimiter (.inl blankEnd) h.tail.seam,
          scan_of_blanks gapBlank, List.nil_append] at later
        rw [spell_cons, ← List.append_assoc,
          scan_append_delimiter delimiter h.seam_next h.tail.seam, alone, later]
        rfl

/-! ### Every text has a division -/

theorem division_of_blanks (blank : ∀ c ∈ text, isBlank c = true) : Division text text [] where
  whole := by simp
  lead_blank := blank
  gap_blank := by simp
  apart := List.isChain_nil
  fragments := by simp
  connectives := by simp

theorem trimEnd_isPrefix (text : List Char) : trimEnd text <+: text := by
  have isSuffix : trimStart text.reverse <:+ text.reverse := List.dropWhile_suffix _
  rwa [← List.reverse_prefix, List.reverse_reverse] at isSuffix

/-- What has been trimmed neither starts nor ends with a blank. -/
theorem trim_solid (text : List Char) : (∀ c ∈ (trim text).head?, isBlank c = false) ∧
    ∀ c ∈ (trim text).getLast?, isBlank c = false := by
  constructor
  · intro c first
    obtain ⟨behind, whole⟩ := trimEnd_isPrefix (trimStart text)
    obtain ⟨others, split⟩ := List.head?_eq_some_iff.mp first
    have start : trimStart text = c :: (others ++ behind) := by
      rw [← whole, ← List.cons_append, ← split]
      rfl
    exact trimStart_head start
  · intro c last
    rw [trim, trimEnd, List.getLast?_reverse] at last
    obtain ⟨others, split⟩ := List.head?_eq_some_iff.mp last
    exact trimStart_head split

/-- What is left of a plain text that is not blank can stand between two delimiters. -/
theorem undivided_trim (plain : Plain text) (full : trim text ≠ []) : Undivided (trim text) := by
  obtain ⟨noOpen, noClose, noConnective⟩ := plain_iff.mp (plain_trim plain)
  obtain ⟨starts, ends⟩ := trim_solid text
  exact ⟨full, starts, ends, noOpen, noClose, noConnective⟩

/-- A plain text in front of a divided one that begins with a delimiter, if it begins at all. -/
theorem exists_division_plain_append {before : List Char} (plain : Plain before)
    (seam : endsInWord before = false ∨ startsInWord rest = false)
    (behind : ∀ trail, (∀ c ∈ trail, isBlank c = true) → ∃ parts,
      Division (trail ++ rest) trail parts ∧ ∀ p ∈ parts.head?, p.token.isFragment = false) :
    ∃ lead parts, Division (before ++ rest) lead parts := by
  by_cases blank : trim before = []
  · obtain ⟨parts, divided, -⟩ := behind before (trim_eq_nil_iff.mp blank)
    exact ⟨before, parts, divided⟩
  · obtain ⟨lead, trail, leadBlank, trailBlank, whole⟩ := exists_blanks_around_trim before
    obtain ⟨parts, divided, delimiter⟩ := behind trail trailBlank
    have solid := undivided_trim plain blank
    have seam' : endsInWord (trim before) = false ∨ startsInWord (trail ++ rest) = false := by
      by_cases none : trail = []
      · rw [none, List.append_nil] at whole
        rw [whole, endsInWord_append blank] at seam
        rw [none]
        exact seam
      · apply Or.inr
        rw [startsInWord_append none]
        exact startsInWord_of_blanks trailBlank
    have text : before ++ rest =
        lead ++ (fragment (String.ofList (trim before))).spelling ++ (trail ++ rest) := by
      rw [spelling, String.toList_ofList, ← List.append_assoc, ← whole]
    rw [text]
    refine ⟨lead, _, divided.cons leadBlank ?_ ?_ fun _ => delimiter⟩
    · rw [spelling, String.toList_ofList]
      exact seam'
    · rintro s ⟨⟩
      rw [String.toList_ofList]
      exact solid

/-- The characters of a delimiter are what it is known by. -/
theorem eq_spelling_of_delimiter? {piece : List Char} (h : delimiter? piece = some t) :
    piece = t.spelling ∧ t.isFragment = false := by
  unfold delimiter? at h
  split at h
  · next same =>
    cases h
    exact ⟨same, rfl⟩
  · split at h
    · next same =>
      cases h
      exact ⟨same, rfl⟩
    · obtain ⟨op, found, rfl⟩ := Option.map_eq_some_iff.mp h
      refine ⟨?_, rfl⟩
      rw [spelling, ← Connective.ofKeyword?_eq_some_iff.mp found, String.toList_ofList]

/-- **Every text has a division.** -/
theorem exists_division (text : List Char) : ∃ lead parts, Division text lead parts := by
  by_cases plain : Plain text
  · have divided := exists_division_plain_append plain (.inr (rfl : startsInWord [] = false))
      fun trail blank => ⟨[], by rw [List.append_nil]; exact division_of_blanks blank, nofun⟩
    rwa [List.append_nil] at divided
  · obtain ⟨before, piece, after, t, cut, others, is⟩ := exists_first_delimiter plain
    obtain ⟨rfl, delimiter⟩ := eq_spelling_of_delimiter? is
    have whole : text = before.flatten ++ (t.spelling ++ after.flatten) := by
      rw [← flatten_pieces text, cut, List.flatten_append, List.flatten_cons]
    have ne : t.spelling ≠ [] := spelling_ne_nil (by rintro s rfl; cases delimiter)
    have shorter : after.flatten.length < text.length := by
      have := List.length_pos_iff.mpr ne
      rw [whole, List.length_append, List.length_append]
      omega
    obtain ⟨gap, parts, divided⟩ := exists_division after.flatten
    have left := seam_of_pieces cut
    rw [List.flatten_cons, startsInWord_append ne] at left
    have right := seam_of_pieces (cut.trans (List.append_cons ..))
    rw [List.flatten_concat, endsInWord_append ne] at right
    have plainBefore : Plain before.flatten := by
      intro p mem
      rw [(pieces_of_append cut).1] at mem
      exact others p mem
    rw [whole]
    apply exists_division_plain_append plainBefore
    · rw [startsInWord_append ne]
      exact left
    · intro trail blank
      rw [← List.append_assoc]
      refine ⟨_, divided.cons blank right ?_ ?_, ?_⟩
      · rintro s rfl
        cases delimiter
      · rw [delimiter]
        nofun
      · rintro p ⟨⟩
        exact delimiter
termination_by text.length
decreasing_by exact shorter

/-! ### The tokens of a text -/

theorem ofText?_of_blanks {text : String} (blank : ∀ c ∈ text.toList, isBlank c = true) :
    ofText? text = .error .emptyInput := by
  rw [ofText?, if_pos (List.isEmpty_iff.mpr (trim_eq_nil_iff.mpr blank))]

/-- **The tokens of a text are those of its divisions.** A blank text has none and is refused; every
other text has exactly one sequence of tokens that divides it, and no token of it begins or ends
inside a word. -/
theorem ofText?_division (text : String) :
    ((∀ c ∈ text.toList, isBlank c = true) → ofText? text = .error .emptyInput) ∧
    ((∃ c ∈ text.toList, isBlank c = false) → ∃ tokens, ofText? text = .ok tokens ∧
      ∀ others, (∃ lead parts, Division text.toList lead parts ∧ parts.map (·.token) = others) ↔
        others = tokens) ∧
    ∀ lead parts, Division text.toList lead parts → ∀ front p back, parts = front ++ p :: back →
      (endsInWord (lead ++ spell front) = false ∨ startsInWord p.token.spelling = false) ∧
        (endsInWord p.token.spelling = false ∨ startsInWord (p.gap ++ spell back) = false) := by
  refine ⟨ofText?_of_blanks, ?_, fun lead parts divided front p back => divided.seams⟩
  rintro ⟨c, mem, solid⟩
  have full : Token.scan text.toList ≠ [] := by
    intro none
    have blank := scan_eq_nil_iff.mp none c mem
    rw [solid] at blank
    cases blank
  refine ⟨_, ofText?_of_scan_ne_nil full, fun others => ?_⟩
  constructor
  · rintro ⟨lead, parts, divided, rfl⟩
    exact divided.scan.symm
  · rintro rfl
    obtain ⟨lead, parts, divided⟩ := exists_division text.toList
    exact ⟨lead, parts, divided, divided.scan.symm⟩

/-- The words that hold a connective stay whole, and the one that touches a parenthesis does not. -/
theorem brandAndOrder_divided :
    ofText? " \t" = .error .emptyInput ∧
    (∀ others, (∃ lead parts, Division "BRAND = 1 AND(ORDER > 2)".toList lead parts ∧
      parts.map (·.token) = others) ↔ others =
        [fragment "BRAND = 1", connective .and, openParen, fragment "ORDER > 2", closeParen]) ∧
    ∃ lead front p back, Division "BRAND = 1 AND(ORDER > 2)".toList lead (front ++ p :: back) ∧
      p.token = connective .and ∧
      (endsInWord (lead ++ spell front) = false ∨ startsInWord p.token.spelling = false) ∧
      (endsInWord p.token.spelling = false ∨ startsInWord (p.gap ++ spell back) = false) := by
  obtain ⟨-, divided, seams⟩ := ofText?_division "BRAND = 1 AND(ORDER > 2)"
  obtain ⟨tokens, found, only⟩ := divided ⟨'B', by decide +kernel, by decide +kernel⟩
  have is : ofText? "BRAND = 1 AND(ORDER > 2)" = .ok
      [fragment "BRAND = 1", connective .and, openParen, fragment "ORDER > 2", closeParen] := by
    decide +kernel
  obtain rfl := Except.ok.inj (found.symm.trans is)
  have blank : " \t".toList.all isBlank = true := by decide +kernel
  refine ⟨(ofText?_division " \t").1 (List.all_eq_true.mp blank), only, ?_⟩
  obtain ⟨lead, parts, division, same⟩ := (only _).mpr rfl
  obtain ⟨first, rest, rfl, -, same⟩ := List.map_eq_cons_iff.mp same
  obtain ⟨second, others, rfl, is, -⟩ := List.map_eq_cons_iff.mp same
  exact ⟨lead, [first], second, others, division, is,
    seams lead _ division [first] second others rfl⟩

end Token
end Rulebook
