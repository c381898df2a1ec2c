import Mathlib.Data.List.TakeWhile
import Rulebook.Proofs.Token.Pieces

/-!
How the tokens of a text come from the tokens of its parts.

* `scan_append_openParen`, `scan_append_closeParen`, `scan_append_keyword`: a delimiter splits the
  tokens of a text into those before it and those behind it.
* `scan_cons_blank`, `scan_concat_blank`: blanks at the ends of a text do not count.
* `scan_of_plain`: a text without delimiters is one fragment.
* `scan_eq_nil_iff`: only blank texts have no tokens.
* `plain_of_mem_scan`: no fragment of a text has a delimiter in it.
-/

namespace Rulebook

namespace Text

/-! ### Blanks around a text -/

theorem trim_cons_blank {c : Char} (h : isBlank c = true) (text : List Char) :
    trim (c :: text) = trim text := by
  simp [trim, trimStart, h]

theorem trimEnd_concat_blank {c : Char} (h : isBlank c = true) (text : List Char) :
    trimEnd (text ++ [c]) = trimEnd text := by
  simp [trimEnd, trimStart, h]

theorem trim_concat_blank {c : Char} (h : isBlank c = true) (text : List Char) :
    trim (text ++ [c]) = trim text := by
  induction text with
  | nil => simp [trim_cons_blank h]
  | cons d rest ih =>
    by_cases blank : isBlank d = true
    · rw [List.cons_append, trim_cons_blank blank, trim_cons_blank blank, ih]
    · have solid : isBlank d = false := by simpa using blank
      rw [trim, trim, List.cons_append, trimStart_of_head solid, trimStart_of_head solid,
        ← List.cons_append, trimEnd_concat_blank h]

/-- A text is its trimmed form with blanks around it. -/
theorem exists_blanks_around_trim (text : List Char) : ∃ lead trail,
    (∀ c ∈ lead, isBlank c = true) ∧ (∀ c ∈ trail, isBlank c = true) ∧
      text = lead ++ trim text ++ trail := by
  have start : text = text.takeWhile isBlank ++ trimStart text :=
    List.takeWhile_append_dropWhile.symm
  have finish : trimStart text =
      trim text ++ ((trimStart text).reverse.takeWhile isBlank).reverse := by
    have split := congrArg List.reverse
      (List.takeWhile_append_dropWhile (p := isBlank) (l := (trimStart text).reverse))
    rw [List.reverse_append, List.reverse_reverse] at split
    exact split.symm
  refine ⟨text.takeWhile isBlank, ((trimStart text).reverse.takeWhile isBlank).reverse,
    fun c mem => List.mem_takeWhile_imp mem,
    fun c mem => List.mem_takeWhile_imp (List.mem_reverse.mp mem), ?_⟩
  rw [List.append_assoc, ← finish]
  exact start

/-- A text that neither starts nor ends with a blank is left as it is. -/
theorem trim_eq_self {text : List Char} (first : ∀ c ∈ text.head?, isBlank c = false)
    (last : ∀ c ∈ text.getLast?, isBlank c = false) : trim text = text := by
  have start : trimStart text = text := by
    cases text with
    | nil => rfl
    | cons c rest => exact trimStart_of_head (first c rfl)
  rw [trim, start, trimEnd]
  cases rev : text.reverse with
  | nil => simpa [trimStart] using (List.reverse_eq_nil_iff.mp rev).symm
  | cons c rest =>
    have solid : isBlank c = false := last c (by
      rw [← List.head?_reverse, rev]
      rfl)
    rw [trimStart_of_head solid, ← rev, List.reverse_reverse]

theorem endsInWord_of_blanks {text : List Char} (h : ∀ c ∈ text, isBlank c = true) :
    endsInWord text = false := by
  rcases List.eq_nil_or_concat text with rfl | ⟨front, c, rfl⟩
  · rfl
  · rw [List.concat_eq_append, endsInWord_concat]
    exact isWord_eq_false_of_isBlank (h c (by simp))

theorem startsInWord_of_blanks {text : List Char} (h : ∀ c ∈ text, isBlank c = true) :
    startsInWord text = false := by
  cases text with
  | nil => rfl
  | cons c rest => exact isWord_eq_false_of_isBlank (h c (by simp))

end Text

open Text

namespace Token

/-! ### Gathering pieces -/

/-- The tokens of a text that has been cut into pieces. -/
def ofPieces (cut : List (List Char)) : List Token := ofGap (gather cut).1 ++ (gather cut).2

theorem scan_eq_ofPieces (text : List Char) : scan text = ofPieces (pieces text) := rfl

theorem gather_cons_of_none {piece : List Char} (h : delimiter? piece = none)
    (rest : List (List Char)) :
    gather (piece :: rest) = (piece ++ (gather rest).1, (gather rest).2) := by
  simp [gather, h]

theorem gather_cons_of_some {piece : List Char} {token : Token} (h : delimiter? piece = some token)
    (rest : List (List Char)) : gather (piece :: rest) = ([], token :: ofPieces rest) := by
  simp [gather, ofPieces, h]

theorem gather_of_plain {cut : List (List Char)} (h : ∀ piece ∈ cut, delimiter? piece = none) :
    gather cut = (cut.flatten, []) := by
  induction cut with
  | nil => rfl
  | cons piece rest ih =>
    rw [gather_cons_of_none (h piece (by simp)), ih fun p mem => h p (by simp [mem])]
    rfl

/-- A delimiter ends the gap that the pieces before it leave open. -/
theorem gather_append_delimiter {piece : List Char} {token : Token}
    (h : delimiter? piece = some token) (before after : List (List Char)) :
    gather (before ++ piece :: after) =
      ((gather before).1, (gather before).2 ++ token :: ofPieces after) := by
  induction before with
  | nil => exact gather_cons_of_some h after
  | cons first rest ih =>
    rw [List.cons_append]
    cases found : delimiter? first with
    | none => rw [gather_cons_of_none found, gather_cons_of_none found, ih]
    | some earlier =>
      rw [gather_cons_of_some found, gather_cons_of_some found]
      simp only [ofPieces, ih, List.cons_append, List.append_assoc]

theorem ofPieces_append_delimiter {piece : List Char} {token : Token}
    (h : delimiter? piece = some token) (before after : List (List Char)) :
    ofPieces (before ++ piece :: after) = ofPieces before ++ token :: ofPieces after := by
  simp only [ofPieces, gather_append_delimiter h, List.append_assoc]

/-! ### Delimiters split a scan -/

theorem scan_append_openParen (before after : List Char) :
    scan (before ++ '(' :: after) = scan before ++ openParen :: scan after := by
  rw [scan_eq_ofPieces, pieces_append_cons (by decide), ofPieces_append_delimiter rfl]
  rfl

theorem scan_append_closeParen (before after : List Char) :
    scan (before ++ ')' :: after) = scan before ++ closeParen :: scan after := by
  rw [scan_eq_ofPieces, pieces_append_cons (by decide), ofPieces_append_delimiter rfl]
  rfl

theorem delimiter?_keyword (op : Connective) :
    delimiter? op.keyword.toList = some (connective op) := by
  cases op <;> decide

/-- **The word of a connective splits a scan where it stands for itself.** -/
theorem scan_append_keyword {before after : List Char} (op : Connective)
    (left : endsInWord before = false) (right : startsInWord after = false) :
    scan (before ++ op.keyword.toList ++ after) =
      scan before ++ connective op :: scan after := by
  rw [scan_eq_ofPieces, List.append_assoc, pieces_append (.inl left),
    pieces_name_append op.isName_keyword right, ofPieces_append_delimiter (delimiter?_keyword op)]
  rfl

/-! ### Blanks do not count -/

theorem ofGap_concat_blank {c : Char} (h : isBlank c = true) (gap : List Char) :
    ofGap (gap ++ [c]) = ofGap gap := by
  simp only [ofGap, trim_concat_blank h]

theorem delimiter?_blank {c : Char} (h : isBlank c = true) : delimiter? [c] = none := by
  rw [delimiter?_eq_none_iff]
  refine ⟨?_, ?_, fun op same => ?_⟩
  · rintro ⟨⟩
    exact absurd h (by decide)
  · rintro ⟨⟩
    exact absurd h (by decide)
  · have word := op.isName_keyword
    rw [← same, Condition.isName_iff] at word
    have := word.2 c (by simp)
    rw [isWord_eq_false_of_isBlank h] at this
    contradiction

theorem scan_cons_blank {c : Char} (h : isBlank c = true) (text : List Char) :
    scan (c :: text) = scan text := by
  have cut : pieces (c :: text) = [c] :: pieces text :=
    pieces_append_cons (isWord_eq_false_of_isBlank h) [] text
  rw [scan_eq_ofPieces, scan_eq_ofPieces, cut, ofPieces, ofPieces,
    gather_cons_of_none (delimiter?_blank h)]
  simp only [ofGap, List.singleton_append, trim_cons_blank h]

/-- A blank at the end goes to the last gap, if that is still open. -/
theorem gather_concat_blank {c : Char} (h : isBlank c = true) (cut : List (List Char)) :
    (gather (cut ++ [[c]])).2 = (gather cut).2 ∧
      ((gather (cut ++ [[c]])).1 = (gather cut).1 ∨
        (gather (cut ++ [[c]])).1 = (gather cut).1 ++ [c]) := by
  induction cut with
  | nil => exact ⟨by simp [gather, delimiter?_blank h], .inr (by simp [gather, delimiter?_blank h])⟩
  | cons piece rest ih =>
    obtain ⟨tokens, gap⟩ := ih
    rw [List.cons_append]
    cases found : delimiter? piece with
    | none =>
      rw [gather_cons_of_none found, gather_cons_of_none found]
      refine ⟨tokens, ?_⟩
      rcases gap with same | more
      · exact .inl (by simp only [same])
      · exact .inr (by simp only [more, List.append_assoc])
    | some token =>
      rw [gather_cons_of_some found, gather_cons_of_some found, ofPieces, ofPieces, tokens]
      refine ⟨?_, .inl rfl⟩
      rcases gap with same | more
      · rw [same]
      · rw [more, ofGap_concat_blank h]

theorem scan_concat_blank {c : Char} (h : isBlank c = true) (text : List Char) :
    scan (text ++ [c]) = scan text := by
  have cut : pieces (text ++ [c]) = pieces text ++ [[c]] :=
    pieces_append_cons (isWord_eq_false_of_isBlank h) text []
  obtain ⟨tokens, gap⟩ := gather_concat_blank h (pieces text)
  rw [scan_eq_ofPieces, scan_eq_ofPieces, cut, ofPieces, ofPieces, tokens]
  rcases gap with same | more
  · rw [same]
  · rw [more, ofGap_concat_blank h]

theorem scan_of_blanks {text : List Char} (h : ∀ c ∈ text, isBlank c = true) : scan text = [] := by
  induction text with
  | nil => rfl
  | cons c rest ih =>
    rw [scan_cons_blank (h c (by simp))]
    exact ih fun d mem => h d (by simp [mem])

/-- A text with a token is not blank, so its tokens are what is scanned. -/
theorem ofText?_of_scan_ne_nil {text : String} (h : scan text.toList ≠ []) :
    ofText? text = .ok (scan text.toList) := by
  unfold ofText?
  split
  · next blank => exact absurd (scan_of_blanks (trim_eq_nil_iff.mp (List.isEmpty_iff.mp blank))) h
  · rfl

/-! ### Fragments -/

theorem scan_of_plain {text : List Char} (h : Plain text) : scan text = ofGap text := by
  rw [scan_eq_ofPieces, ofPieces, gather_of_plain h, flatten_pieces, List.append_nil]

/-- A text without delimiters or blanks around it is one fragment. -/
theorem scan_of_plain_solid {text : List Char} (plain : Plain text) (full : text ≠ [])
    (solid : trim text = text) : scan text = [fragment (String.ofList text)] := by
  rw [scan_of_plain plain, ofGap, solid, if_neg (by simpa using full)]

/-- The first delimiter of a text that has one. -/
theorem exists_first_delimiter {text : List Char} (h : ¬ Plain text) :
    ∃ before piece after token, pieces text = before ++ piece :: after ∧
      (∀ p ∈ before, delimiter? p = none) ∧ delimiter? piece = some token := by
  cases found : (pieces text).find? fun piece => (delimiter? piece).isSome with
  | none =>
    have plain : Plain text := by simpa [Plain] using found
    exact absurd plain h
  | some piece =>
    obtain ⟨isDelimiter, before, after, cut, others⟩ := List.find?_eq_some_iff_append.mp found
    obtain ⟨token, is⟩ := Option.isSome_iff_exists.mp isDelimiter
    exact ⟨before, piece, after, token, cut, by simpa using others, is⟩

/-- Where nothing is gathered behind a gap there is no delimiter. -/
theorem plain_of_gather_eq_nil {cut : List (List Char)} (h : (gather cut).2 = []) :
    ∀ piece ∈ cut, delimiter? piece = none := by
  intro piece mem
  cases found : delimiter? piece with
  | none => rfl
  | some token =>
    obtain ⟨before, after, rfl⟩ := List.append_of_mem mem
    rw [gather_append_delimiter found] at h
    simp at h

/-- **Only blank texts have no tokens.** -/
theorem scan_eq_nil_iff {text : List Char} : scan text = [] ↔ ∀ c ∈ text, isBlank c = true := by
  constructor
  · intro none
    have noTokens := (List.append_eq_nil_iff.mp none).2
    have plain : Plain text := plain_of_gather_eq_nil noTokens
    rw [scan_of_plain plain, ofGap] at none
    split at none
    · next blank => exact trim_eq_nil_iff.mp (List.isEmpty_iff.mp blank)
    · cases none
  · exact scan_of_blanks

theorem mem_ofGap_iff {s : String} {gap : List Char} :
    fragment s ∈ ofGap gap ↔ trim gap ≠ [] ∧ s = String.ofList (trim gap) := by
  unfold ofGap
  split
  · next empty => simp [List.isEmpty_iff.mp empty]
  · next full => simp [List.isEmpty_eq_false_iff.mp (Bool.eq_false_iff.mpr full)]

theorem delimiter?_ne_fragment (piece : List Char) (s : String) :
    delimiter? piece ≠ some (fragment s) := by
  unfold delimiter?
  split
  · simp
  · split <;> simp

/-- A gap is the beginning of the text that the pieces make up. -/
theorem gap_isPrefix (cut : List (List Char)) : (gather cut).1 <+: cut.flatten := by
  induction cut with
  | nil => exact List.prefix_rfl
  | cons piece rest ih =>
    cases found : delimiter? piece with
    | none =>
      rw [gather_cons_of_none found, List.flatten_cons]
      exact List.prefix_append_right_inj piece |>.mpr ih
    | some token =>
      rw [gather_cons_of_some found]
      exact List.nil_prefix

theorem gather_plain {cut : List (List Char)} (h : pieces cut.flatten = cut) :
    Plain (gather cut).1 ∧
      ∀ s, fragment s ∈ (gather cut).2 → ∃ gap, Plain gap ∧ fragment s ∈ ofGap gap := by
  induction cut with
  | nil => exact ⟨by simp [Plain, gather, pieces], by simp [gather]⟩
  | cons piece rest ih =>
    obtain ⟨alone, restCut⟩ := pieces_of_append (h.trans (List.singleton_append).symm)
    have seam := seam_of_pieces (h.trans (List.singleton_append).symm)
    rw [List.flatten_singleton] at alone seam
    obtain ⟨gapPlain, later⟩ := ih restCut
    cases found : delimiter? piece with
    | none =>
      rw [gather_cons_of_none found]
      refine ⟨?_, later⟩
      -- The gap goes on where the rest of the text does, so no word goes across the seam.
      have seam' : endsInWord piece = false ∨ startsInWord (gather rest).1 = false := by
        refine seam.imp_right fun starts => ?_
        obtain ⟨tail, whole⟩ := gap_isPrefix rest
        cases gap : (gather rest).1 with
        | nil => rfl
        | cons c front =>
          rw [gap] at whole
          rwa [← whole] at starts
      rw [plain_append_iff seam']
      refine ⟨?_, gapPlain⟩
      rw [Plain, alone]
      simpa using found
    | some token =>
      rw [gather_cons_of_some found]
      refine ⟨by simp [Plain, pieces], fun s mem => ?_⟩
      rcases List.mem_cons.mp mem with same | mem
      · cases token with
        | fragment t => exact absurd found (delimiter?_ne_fragment piece t)
        | _ => cases same
      · rcases List.mem_append.mp mem with inGap | mem
        · exact ⟨_, gapPlain, inGap⟩
        · exact later s mem

theorem plain_trim {text : List Char} (h : Plain text) : Plain (trim text) := by
  obtain ⟨lead, trail, leadBlank, trailBlank, whole⟩ := exists_blanks_around_trim text
  rw [whole, plain_append_iff (.inr (startsInWord_of_blanks trailBlank)),
    plain_append_iff (.inl (endsInWord_of_blanks leadBlank))] at h
  exact h.1.2

/-- **No fragment of a text has a delimiter in it.** -/
theorem plain_of_mem_scan {text : List Char} {s : String} (h : fragment s ∈ scan text) :
    Plain s.toList := by
  have whole : pieces (pieces text).flatten = pieces text := by rw [flatten_pieces]
  obtain ⟨firstPlain, later⟩ := gather_plain whole
  have gapPlain : ∃ gap, Plain gap ∧ fragment s ∈ ofGap gap := by
    rcases List.mem_append.mp h with first | behind
    · exact ⟨_, firstPlain, first⟩
    · exact later s behind
  obtain ⟨gap, plain, mem⟩ := gapPlain
  rw [(mem_ofGap_iff.mp mem).2, String.toList_ofList]
  exact plain_trim plain

end Token
end Rulebook
