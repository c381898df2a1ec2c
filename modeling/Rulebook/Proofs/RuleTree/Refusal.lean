import Rulebook.Proofs.Condition.Printing
import Rulebook.Proofs.Grammar

/-!
Texts that are refused for what stands before their first delimiter.

A text is cut at its delimiters before any of it is read as a condition. So what stands before the
first delimiter has to be a condition by itself, whatever follows, and quotes do not keep
delimiters together.

* `Token.front`: the text before the first delimiter.
* `Token.front_append_of_plain`, `Token.front_append_of_not_plain`: the front of a text that is put
  together.
* `ParsedRule.ofText?_of_front`: a text whose front is neither blank nor a condition is refused for
  it.
* `Condition.quotedText`: a condition with its value between quotes.
* `ParsedRule.ofText?_quotedText`: the value is taken as it stands exactly if there is no delimiter
  in it, and otherwise the text is refused.
-/

namespace Rulebook

open Text

/-! ### Blanks at the end -/

namespace Text

/-- What stands before a character that is not blank is left as it is. -/
theorem trimEnd_append_cons {c : Char} (solid : isBlank c = false) (front rest : List Char) :
    trimEnd (front ++ c :: rest) = front ++ c :: trimEnd rest := by
  have reversed : (front ++ c :: rest).reverse = rest.reverse ++ c :: front.reverse := by simp
  rw [trimEnd, trimEnd, trimStart, trimStart, reversed, List.dropWhile_append]
  split
  · next blank => simp [List.isEmpty_iff.mp blank, solid]
  · simp

/-- A text that starts with a word has no blanks in front. -/
theorem trim_of_startsInWord {text : List Char} (h : startsInWord text = true) :
    trim text = trimEnd text := by
  cases text with
  | nil => rfl
  | cons c rest =>
    have solid : isBlank c = false := by
      by_contra blank
      rw [startsInWord_cons, isWord_eq_false_of_isBlank (by simpa using blank)] at h
      cases h
    rw [trim, trimStart_of_head solid]

theorem mem_of_mem_trimEnd {x : Char} {text : List Char} (h : x ∈ trimEnd text) : x ∈ text := by
  have kept : x ∈ text.reverse :=
    (List.dropWhile_sublist _).subset (List.mem_reverse.mp h)
  exact List.mem_reverse.mp kept

end Text

/-! ### The front of a text -/

namespace Token

/-- The text before the first delimiter, or the whole text if there is none. -/
def front (text : List Char) : List Char := (gather (pieces text)).1

theorem gather_append_of_plain {cut : List (List Char)}
    (h : ∀ piece ∈ cut, delimiter? piece = none) (rest : List (List Char)) :
    (gather (cut ++ rest)).1 = cut.flatten ++ (gather rest).1 := by
  induction cut with
  | nil => rfl
  | cons piece others ih =>
    rw [List.cons_append, gather_cons_of_none (h piece (by simp)), List.flatten_cons,
      ih fun p mem => h p (by simp [mem]), List.append_assoc]

/-- Text without a delimiter belongs to the front of what follows it. -/
theorem front_append_of_plain {before after : List Char} (plain : Plain before)
    (seam : endsInWord before = false ∨ startsInWord after = false) :
    front (before ++ after) = before ++ front after := by
  rw [front, pieces_append seam, gather_append_of_plain plain, flatten_pieces]
  rfl

/-- The front of a text ends where its first delimiter stands. -/
theorem front_eq_flatten {text piece : List Char} {before after : List (List Char)} {token : Token}
    (cut : pieces text = before ++ piece :: after) (others : ∀ p ∈ before, delimiter? p = none)
    (is : delimiter? piece = some token) : front text = before.flatten := by
  rw [front, cut, gather_append_delimiter is, gather_of_plain others]

/-- Further text behind a delimiter does not count for the front. -/
theorem front_append_of_not_plain {before after : List Char} (h : ¬ Plain before)
    (seam : endsInWord before = false ∨ startsInWord after = false) :
    front (before ++ after) = front before := by
  obtain ⟨earlier, piece, later, token, cut, others, is⟩ := exists_first_delimiter h
  have whole : pieces (before ++ after) = earlier ++ piece :: (later ++ pieces after) := by
    rw [pieces_append seam, cut, List.append_assoc, List.cons_append]
  rw [front_eq_flatten whole others is, front_eq_flatten cut others is]

/-- A text with a delimiter is its front, the delimiter and further text. -/
theorem exists_behind_front {text : List Char} (h : ¬ Plain text) :
    ∃ piece after, text = front text ++ piece ++ after ∧ (delimiter? piece).isSome = true := by
  obtain ⟨before, piece, after, token, cut, others, is⟩ := exists_first_delimiter h
  refine ⟨piece, after.flatten, ?_, by rw [is]; rfl⟩
  rw [front_eq_flatten cut others is, List.append_assoc, ← List.flatten_cons, ← List.flatten_append,
    ← cut, flatten_pieces]

theorem plain_front (text : List Char) : Plain (front text) :=
  (gather_plain (by rw [flatten_pieces])).1

theorem front_isPrefix (text : List Char) : front text <+: text := by
  have isPrefix := gap_isPrefix (pieces text)
  rwa [flatten_pieces] at isPrefix

/-- A front that is not blank is the first fragment. -/
theorem scan_of_front {text : List Char} (full : trim (front text) ≠ []) :
    scan text = fragment (String.ofList (trim (front text))) :: (gather (pieces text)).2 := by
  have first : ofGap (front text) = [fragment (String.ofList (trim (front text)))] :=
    if_neg (by simpa using full)
  rw [scan_eq_ofPieces, ofPieces]
  change ofGap (front text) ++ _ = _
  rw [first, List.singleton_append]

end Token

/-! ### Refusal -/

/-- **A text is refused for its front, if that is neither blank nor a condition,** whatever stands
behind the first delimiter. -/
theorem ParsedRule.ofText?_of_front {text : String} {cause : ParseError}
    (full : trim (Token.front text.toList) ≠ [])
    (refused : Condition.ofText? (String.ofList (trim (Token.front text.toList))) = .error cause) :
    ofText? text = .error cause := by
  have cut := Token.scan_of_front full
  unfold ofText? ofTokens?
  rw [Token.ofText?_of_scan_ne_nil (by rw [cut]; simp), cut]
  simp [Reading.feedAll, Reading.feed, Reading.attach, refused, bind, Except.bind]

namespace Condition

/-- A text that is read as no condition is kept in the refusal as it is. -/
theorem ofText?_of_read?_eq_none {text : List Char} (h : read? text = none) :
    ofText? (String.ofList text) = .error (.invalidCondition (String.ofList text)) := by
  rw [ofText?, String.toList_ofList, h]

/-! ### Values between quotes -/

/-- A condition with its value between quotes and gaps around its sign. -/
def quotedText (c : Condition) (gap gap' : List Char) : String :=
  String.ofList (layout c.field.toList gap c.comparison gap' ('\'' :: (c.value.toList ++ ['\''])))

/-- What is left of a condition whose value is cut off behind its opening quote. -/
def unclosedText (c : Condition) (gap gap' value : List Char) : String :=
  String.ofList (layout c.field.toList gap c.comparison gap' ('\'' :: trimEnd value))

/-- The part of a layout in front of its literal. -/
def lead (name gap : List Char) (c : Comparison) (gap' : List Char) : List Char :=
  layout name gap c gap' []

theorem layout_eq_lead_append (name gap : List Char) (c : Comparison) (gap' literal : List Char) :
    layout name gap c gap' literal = lead name gap c gap' ++ literal := by
  simp [lead, layout]

section Layout

variable {name gap gap' : List Char} {c : Comparison}

theorem startsInWord_layout (named : isName name = true) (literal : List Char) :
    startsInWord (layout name gap c gap' literal) = true := by
  rw [layout, startsInWord_append (isName_iff.mp named).1, startsInWord_of_isName named]

theorem layout_ne_nil (named : isName name = true) (literal : List Char) :
    layout name gap c gap' literal ≠ [] := by
  intro empty
  have starts : startsInWord (layout name gap c gap' literal) = true :=
    startsInWord_layout named literal
  rw [empty] at starts
  cases starts

/-- Behind an opening quote only the blanks at the end are dropped. -/
theorem trim_layout_quote (named : isName name = true) (value : List Char) :
    trim (layout name gap c gap' ('\'' :: value)) =
      layout name gap c gap' ('\'' :: trimEnd value) := by
  rw [trim_of_startsInWord (startsInWord_layout named _), layout_eq_lead_append,
    layout_eq_lead_append, trimEnd_append_cons (by decide)]

/-- A value that is not closed is no value. -/
theorem read?_unclosed (named : isName name = true) (blank : ∀ x ∈ gap, isBlank x = true)
    (blank' : ∀ x ∈ gap', isBlank x = true) {value : List Char} (unclosed : '\'' ∉ value) :
    read? (layout name gap c gap' ('\'' :: value)) = none := by
  -- A bare value has no quote, and a quoted one ends in a second quote.
  have noValue : value? ('\'' :: value) = none := by
    refine Option.eq_none_iff_forall_ne_some.mpr fun other read => ?_
    have closed : value = other.toList ++ ['\''] := (quotedValue?_eq_some_iff.mp read).1
    exact unclosed (by simp [closed])
  rw [read?_layout named blank blank' (by simpa using (by decide : isBlank '\'' = false)), noValue]
  rfl

/-- The front of a condition with its value between quotes goes up to the first delimiter in the
value. -/
theorem front_quoted (named : isName name = true)
    (noKeyword : ∀ op : Connective, name ≠ op.keyword.toList)
    (blank : ∀ x ∈ gap, isBlank x = true) (blank' : ∀ x ∈ gap', isBlank x = true)
    {value : List Char} (cut : ¬ Token.Plain value) :
    Token.front (layout name gap c gap' ('\'' :: (value ++ ['\'']))) =
      layout name gap c gap' ('\'' :: Token.front value) := by
  have opened : Token.Plain (lead name gap c gap' ++ ['\'']) := by
    rw [← layout_eq_lead_append, plain_layout_iff named blank blank']
    exact ⟨noKeyword, plain_singleton isWord_quote (by decide) (by decide)⟩
  -- A quote belongs to no word, so the value is cut as if it stood alone.
  have ends : endsInWord (lead name gap c gap' ++ ['\'']) = false := by
    rw [endsInWord_concat]
    exact isWord_quote
  have closes : startsInWord ['\''] = false := isWord_quote
  rw [layout_eq_lead_append, layout_eq_lead_append, List.append_cons,
    List.append_cons _ _ (Token.front value), Token.front_append_of_plain opened (.inl ends),
    Token.front_append_of_not_plain cut (.inr closes)]

end Layout

end Condition

namespace ParsedRule

open Condition (layout isName)

variable {c : Condition} {gap gap' : List Char}

/-- A value without delimiters between quotes is taken as it stands. -/
theorem ofText?_quotedText_of_plain (named : isName c.field.toList = true)
    (noKeyword : ∀ op : Connective, c.field ≠ op.keyword) (noQuote : '\'' ∉ c.value.toList)
    (blank : ∀ x ∈ gap, isBlank x = true) (blank' : ∀ x ∈ gap', isBlank x = true)
    (plain : Token.Plain c.value.toList) :
    ofText? (c.quotedText gap gap') = .ok ⟨.leaf c, [c.field]⟩ := by
  have whole : (c.quotedText gap gap').toList =
      layout c.field.toList gap c.comparison gap' ('\'' :: (c.value.toList ++ ['\''])) :=
    String.toList_ofList
  have written : c.Written (c.quotedText gap gap').toList :=
    ⟨gap, gap', _, whole, named, blank, blank', .quoted noQuote⟩
  have cut : Token.scan (c.quotedText gap gap').toList = [.fragment (c.quotedText gap gap')] := by
    rw [whole]
    refine Token.scan_of_plain_solid ?_ (Condition.layout_ne_nil named _) ?_
    · refine (Condition.plain_layout_iff named blank blank').mpr
        ⟨fun op same => noKeyword op (String.toList_inj.mp same), ?_⟩
      exact Condition.plain_quoted_iff.mpr plain
    · rw [Condition.trim_layout_quote named, trimEnd_append_cons (by decide)]
      rfl
  refine ofText?_eq_ok_iff.mpr ⟨?_, rfl⟩
  rw [cut]
  exact .single (.condition (Condition.ofText?_eq_ok_iff.mpr written))

/-- A value with a delimiter in it is cut there, and what stands before it is refused. -/
theorem ofText?_quotedText_of_not_plain (named : isName c.field.toList = true)
    (noKeyword : ∀ op : Connective, c.field ≠ op.keyword) (noQuote : '\'' ∉ c.value.toList)
    (blank : ∀ x ∈ gap, isBlank x = true) (blank' : ∀ x ∈ gap', isBlank x = true)
    (cut : ¬ Token.Plain c.value.toList) :
    ofText? (c.quotedText gap gap') = .error (.invalidCondition
      (c.unclosedText gap gap' (Token.front c.value.toList))) := by
  have front : trim (Token.front (c.quotedText gap gap').toList) = layout c.field.toList gap
      c.comparison gap' ('\'' :: trimEnd (Token.front c.value.toList)) := by
    rw [Condition.quotedText, String.toList_ofList, Condition.front_quoted named
      (fun op same => noKeyword op (String.toList_inj.mp same)) blank blank' cut,
      Condition.trim_layout_quote named]
  have unclosed : '\'' ∉ trimEnd (Token.front c.value.toList) := fun mem =>
    noQuote ((Token.front_isPrefix _).subset (mem_of_mem_trimEnd mem))
  refine ofText?_of_front ?_ ?_
  · rw [front]
    exact Condition.layout_ne_nil named _
  · rw [front]
    exact Condition.ofText?_of_read?_eq_none (Condition.read?_unclosed named blank blank' unclosed)

/-- **A value between quotes is taken as it stands exactly if no parenthesis is in it and the word
of no connective stands in it;** quotes do not keep these from being read as delimiters. With one of
them in its value the text is never read as another rule: it is refused for what stands before the
first of them. -/
theorem ofText?_quotedText (full : c.field ≠ "") (word : ∀ x ∈ c.field.toList, isWord x = true)
    (noKeyword : ∀ op : Connective, c.field ≠ op.keyword) (noQuote : '\'' ∉ c.value.toList)
    (blank : ∀ x ∈ gap, isBlank x = true) (blank' : ∀ x ∈ gap', isBlank x = true) :
    (ofText? (c.quotedText gap gap') = .ok ⟨.leaf c, [c.field]⟩ ↔
      '(' ∉ c.value.toList ∧ ')' ∉ c.value.toList ∧
        ∀ op : Connective, ¬ StandsIn op.keyword.toList c.value.toList) ∧
    (ofText? (c.quotedText gap gap') ≠ .ok ⟨.leaf c, [c.field]⟩ →
      ∃ before delimiter after, c.value.toList = before ++ delimiter ++ after ∧
        Token.Plain before ∧ (Token.delimiter? delimiter).isSome = true ∧
        ofText? (c.quotedText gap gap') =
          .error (.invalidCondition (c.unclosedText gap gap' before))) := by
  have named : isName c.field.toList = true :=
    Condition.isName_iff.mpr ⟨by simpa using full, word⟩
  rw [← Token.plain_iff]
  by_cases plain : Token.Plain c.value.toList
  · have read := ofText?_quotedText_of_plain named noKeyword noQuote blank blank' plain
    exact ⟨iff_of_true read plain, fun other => absurd read other⟩
  · have refused := ofText?_quotedText_of_not_plain named noKeyword noQuote blank blank' plain
    obtain ⟨delimiter, after, whole, is⟩ := Token.exists_behind_front plain
    refine ⟨iff_of_false ?_ plain, fun _ =>
      ⟨_, delimiter, after, whole, Token.plain_front _, is, refused⟩⟩
    rw [refused]
    nofun

/-- A value in which the words of connectives stand only as parts of other words. -/
def brandOrOrder : Condition := ⟨"name", .equal, "BRAND  or ORDER"⟩

theorem brandOrOrder_taken : brandOrOrder.field ≠ "" ∧
    (∀ x ∈ brandOrOrder.field.toList, isWord x = true) ∧
    (∀ op : Connective, brandOrOrder.field ≠ op.keyword) ∧ '\'' ∉ brandOrOrder.value.toList ∧
    ofText? (brandOrOrder.quotedText [' '] []) = .ok ⟨.leaf brandOrOrder, ["name"]⟩ := by
  have full : brandOrOrder.field ≠ "" := by decide
  have named : isName brandOrOrder.field.toList = true := by decide +kernel
  have word : ∀ x ∈ brandOrOrder.field.toList, isWord x = true := (Condition.isName_iff.mp named).2
  have noKeyword : ∀ op : Connective, brandOrOrder.field ≠ op.keyword := by
    rintro (_ | _) <;> decide
  have noQuote : '\'' ∉ brandOrOrder.value.toList := by decide +kernel
  have plain : Token.Plain brandOrOrder.value.toList := by
    unfold Token.Plain
    decide +kernel
  refine ⟨full, word, noKeyword, noQuote, ?_⟩
  exact (ofText?_quotedText full word noKeyword noQuote Condition.printedGap
    (List.forall_mem_nil _)).1.mpr (Token.plain_iff.mp plain)

/-- Where the word of a connective stands in a value, the quotes do not keep it, although the whole
text is a condition. -/
theorem quotedConnective_refused :
    Condition.ofText? "dept = 'R AND D'" = .ok ⟨"dept", .equal, "R AND D"⟩ ∧
      ofText? "dept = 'R AND D'" = .error (.invalidCondition "dept = 'R") := by
  decide +kernel

end ParsedRule
end Rulebook
