import TableQuery.Proofs.Query.Token

/-!
# What items are cut out of

The characters of an item stand at the front of the text that it is read from, and the item does not
change if the text behind them is shortened at its end. So a text can be cut between any two of its
items, and both parts hold the items that they held before.

* `CutsOff`: a rule that takes characters off the front of a text and does not look far beyond them;
* `exists_cut_scan`: the characters of an item;
* `exists_cut_items`: a text is cut between two of its items;
* `isLexeme_of_mem_items`: the tokens that are cut out of texts.
-/

namespace TableQuery.Query

open Text (isBlank)

/-- The rule takes characters off the front of a text, and takes the same ones if what is left of
the text is shortened at its end. -/
def CutsOff (take : List Char → List Char × List Char) : Prop :=
  ∀ text, (take text).1 ++ (take text).2 = text ∧
    ∀ more, more <+: (take text).2 → take ((take text).1 ++ more) = ((take text).1, more)

theorem prefix_of_append_eq {taken rest text more : List Char} (h : taken ++ rest = text)
    (hm : more <+: rest) : taken ++ more <+: text :=
  h ▸ (List.prefix_append_right_inj taken).2 hm

/-! ## Runs of characters -/

section

variable {p : Char → Bool} {text more : List Char}

theorem takeWhile_eq_nil_of_isPrefix (h : more <+: text) (ht : text.takeWhile p = []) :
    more.takeWhile p = [] := by
  cases more with
  | nil => rfl
  | cons c rest =>
    obtain ⟨tail, rfl⟩ := h
    rw [List.cons_append, List.takeWhile_cons] at ht
    rw [List.takeWhile_cons]
    split at ht
    · cases ht
    · next outside => rw [if_neg outside]

theorem takeWhile_dropWhile (p : Char → Bool) (text : List Char) :
    (text.dropWhile p).takeWhile p = [] := by
  induction text with
  | nil => rfl
  | cons c rest ih =>
    rw [List.dropWhile_cons]
    split
    · exact ih
    · next outside => rw [List.takeWhile_cons, if_neg outside]

/-- A run of characters ends where it did, however much of the rest is there. -/
theorem takeWhile_append_of_isPrefix (h : more <+: text.dropWhile p) :
    (text.takeWhile p ++ more).takeWhile p = text.takeWhile p := by
  rw [List.takeWhile_append_of_pos fun c hc => List.all_eq_true.1 List.all_takeWhile c hc,
    takeWhile_eq_nil_of_isPrefix h (takeWhile_dropWhile p text), List.append_nil]

theorem dropWhile_append_of_isPrefix (h : more <+: text.dropWhile p) :
    (text.takeWhile p ++ more).dropWhile p = more := by
  have run := List.takeWhile_append_dropWhile (p := p) (l := text.takeWhile p ++ more)
  rw [takeWhile_append_of_isPrefix h] at run
  exact List.append_cancel_left run

end

theorem cutsOff_run (p : Char → Bool) : CutsOff fun text => (text.takeWhile p, text.dropWhile p) :=
  fun _ => ⟨List.takeWhile_append_dropWhile, fun _ h =>
    Prod.ext (takeWhile_append_of_isPrefix h) (dropWhile_append_of_isPrefix h)⟩

/-! ## The parts of a number -/

theorem cutsOff_takePoint : CutsOff takePoint := by
  intro text
  unfold takePoint
  split
  · next rest =>
    refine ⟨?_, fun more h => ?_⟩
    · rw [List.cons_append, List.takeWhile_append_dropWhile]
    · simp only [List.cons_append, takeWhile_append_of_isPrefix h, dropWhile_append_of_isPrefix h]
  · next text other =>
    refine ⟨rfl, fun more h => ?_⟩
    rw [List.nil_append]
    split
    · next rest =>
      obtain ⟨tail, rfl⟩ := h
      exact absurd rfl (other (rest ++ tail))
    · rfl

theorem cutsOff_takeSign : CutsOff takeSign := by
  intro text
  cases text with
  | nil => exact ⟨rfl, fun more h => by rw [List.prefix_nil.1 h]; rfl⟩
  | cons c rest =>
    by_cases sign : c = '+' ∨ c = '-'
    · rw [takeSign, if_pos sign]
      exact ⟨rfl, fun more h => if_pos sign⟩
    · rw [takeSign, if_neg sign]
      refine ⟨rfl, fun more h => ?_⟩
      cases more with
      | nil => rfl
      | cons d tail =>
        obtain ⟨rfl, -⟩ := List.cons_prefix_cons.1 h
        exact if_neg sign

/-- Behind the sign a shortened text is shortened too. -/
theorem takeSign_isPrefix {more rest : List Char} (h : more <+: rest) :
    (takeSign more).2 <+: (takeSign rest).2 := by
  cases more with
  | nil => exact List.nil_prefix
  | cons c tail =>
    obtain ⟨behind, rfl⟩ := h
    rw [List.cons_append, takeSign, takeSign]
    split
    · exact List.prefix_append tail behind
    · exact List.prefix_append (c :: tail) behind

theorem takeExponent_cons (e : Char) (rest : List Char) : takeExponent (e :: rest) =
    if (e = 'e' ∨ e = 'E') ∧ (takeSign rest).2.takeWhile Number.isDigit ≠ [] then
      (e :: (takeSign rest).1 ++ (takeSign rest).2.takeWhile Number.isDigit,
        (takeSign rest).2.dropWhile Number.isDigit)
    else ([], e :: rest) :=
  rfl

theorem cutsOff_takeExponent : CutsOff takeExponent := by
  intro text
  cases text with
  | nil => exact ⟨rfl, fun more h => by rw [List.prefix_nil.1 h]; rfl⟩
  | cons e rest =>
    obtain ⟨whole, sign⟩ := cutsOff_takeSign rest
    rw [takeExponent_cons]
    split
    · next exponent =>
      refine ⟨?_, fun more h => ?_⟩
      · rw [List.cons_append, List.cons_append, List.append_assoc,
          List.takeWhile_append_dropWhile, whole]
      · have body := prefix_of_append_eq List.takeWhile_append_dropWhile h
        rw [List.cons_append, List.cons_append, List.append_assoc, takeExponent_cons, sign _ body]
        simp only [takeWhile_append_of_isPrefix h, dropWhile_append_of_isPrefix h, if_pos exponent,
          List.cons_append]
    · next exponent =>
      refine ⟨rfl, fun more h => ?_⟩
      cases more with
      | nil => rfl
      | cons d tail =>
        obtain ⟨rfl, behind⟩ := List.cons_prefix_cons.1 h
        refine if_neg fun found => exponent ⟨found.1, fun none => found.2 ?_⟩
        exact takeWhile_eq_nil_of_isPrefix (takeSign_isPrefix behind) none

theorem cutsOff_takeNumber : CutsOff takeNumber := by
  intro text
  obtain ⟨digits, run⟩ := cutsOff_run Number.isDigit text
  obtain ⟨point, behindDigits⟩ := cutsOff_takePoint (text.dropWhile Number.isDigit)
  obtain ⟨exponent, behindPoint⟩ :=
    cutsOff_takeExponent (takePoint (text.dropWhile Number.isDigit)).2
  refine ⟨?_, fun more h => ?_⟩
  · simp only [takeNumber, List.append_assoc, exponent, point, digits]
  · have fraction := prefix_of_append_eq exponent h
    have rest := prefix_of_append_eq point fraction
    simp only [takeNumber, List.append_assoc, takeWhile_append_of_isPrefix rest,
      dropWhile_append_of_isPrefix rest, behindDigits _ fraction, behindPoint _ h]

/-! ## The characters of an item -/

theorem exists_cut_takeQuoted {quote : Char} {text inner after : List Char}
    (h : takeQuoted quote text = some (inner, after)) : ∃ taken, taken ++ after = text ∧
      ∀ more, more <+: after → takeQuoted quote (taken ++ more) = some (inner, more) := by
  have closing : takeQuoted quote [quote] = some ([], []) := by
    rw [takeQuoted.eq_def]
    simp only [if_true]
  fun_induction takeQuoted quote text generalizing inner after with
  | case1 => cases h
  | case2 =>
    obtain ⟨rfl, rfl⟩ := Prod.mk.inj (Option.some.inj h)
    exact ⟨[quote], rfl, fun more hm => by rw [List.prefix_nil.1 hm]; exact closing⟩
  | case3 rest ih =>
    obtain ⟨⟨inner', after'⟩, h', e⟩ := Option.map_eq_some_iff.1 h
    cases e
    obtain ⟨taken, rfl, same⟩ := ih h'
    refine ⟨quote :: quote :: taken, rfl, fun more hm => ?_⟩
    rw [List.cons_append, List.cons_append, takeQuoted_quote_quote, same more hm]
    rfl
  | case4 d rest hd =>
    obtain ⟨rfl, rfl⟩ := Prod.mk.inj (Option.some.inj h)
    refine ⟨[quote], rfl, fun more hm => ?_⟩
    cases more with
    | nil => exact closing
    | cons b tail =>
      obtain ⟨rfl, -⟩ := List.cons_prefix_cons.1 hm
      exact takeQuoted_quote_cons_of_ne hd tail
  | case5 c rest hc ih =>
    obtain ⟨⟨inner', after'⟩, h', e⟩ := Option.map_eq_some_iff.1 h
    cases e
    obtain ⟨taken, rfl, same⟩ := ih h'
    refine ⟨c :: taken, rfl, fun more hm => ?_⟩
    rw [List.cons_append, takeQuoted_cons_of_ne hc, same more hm]
    rfl

theorem exists_cut_quotedItem (quote : Char) (token : String → Token) (text : List Char) :
    ∃ taken, taken ++ (quotedItem quote token text).2 = text ∧
      ∀ more, more <+: (quotedItem quote token text).2 →
        quotedItem quote token (taken ++ more) = ((quotedItem quote token text).1, more) := by
  cases read : takeQuoted quote text with
  | none =>
    -- an open quote takes all of the text
    have unclosed : quotedItem quote token text = (.error .unclosedQuote, []) := by
      rw [quotedItem, read]
    refine ⟨text, by rw [unclosed, List.append_nil], fun more h => ?_⟩
    rw [unclosed] at h ⊢
    rw [List.prefix_nil.1 h, List.append_nil, unclosed]
  | some found =>
    obtain ⟨inner, after⟩ := found
    obtain ⟨taken, whole, same⟩ := exists_cut_takeQuoted read
    rw [quotedItem, read]
    refine ⟨taken, whole, fun more h => ?_⟩
    rw [quotedItem, same more h]

/-- The characters of an item behind its first one: they give the same item if the text behind them
is shortened at its end. -/
theorem exists_cut_scan (c : Char) (text : List Char) :
    ∃ taken, taken ++ (scan c text).2 = text ∧
      ∀ more, more <+: (scan c text).2 → scan c (taken ++ more) = ((scan c text).1, more) := by
  unfold scan
  split
  · exact exists_cut_quotedItem _ _ _
  split
  · exact exists_cut_quotedItem _ _ _
  split
  · obtain ⟨whole, same⟩ := cutsOff_takeNumber text
    exact ⟨_, whole, fun more h => by simp only [same more h]⟩
  split
  · obtain ⟨whole, same⟩ := cutsOff_run isNameChar text
    exact ⟨_, whole, fun more h => by
      rw [takeWhile_append_of_isPrefix h, dropWhile_append_of_isPrefix h]⟩
  split
  · obtain ⟨whole, same⟩ := cutsOff_run isOperatorChar text
    exact ⟨_, whole, fun more h => by
      rw [takeWhile_append_of_isPrefix h, dropWhile_append_of_isPrefix h]⟩
  split
  · exact ⟨[], rfl, fun more _ => rfl⟩
  · exact ⟨[], rfl, fun more _ => rfl⟩

/-! ## Cutting between items -/

/-- A text is cut between two of its items. -/
theorem exists_cut_items {text : List Char} {front rest : List Item}
    (h : items text = front ++ rest) :
    ∃ before behind, before ++ behind = text ∧ items before = front ∧ items behind = rest := by
  fun_induction items text generalizing front with
  | case1 =>
    obtain ⟨rfl, rfl⟩ := List.append_eq_nil_iff.1 h.symm
    exact ⟨[], [], rfl, items_nil, items_nil⟩
  | case2 c text blank ih =>
    obtain ⟨before, behind, rfl, first, second⟩ := ih h
    exact ⟨c :: before, behind, rfl, by rw [items, if_pos blank, first], second⟩
  | case3 c text visible _ ih =>
    cases front with
    | nil => exact ⟨[], c :: text, rfl, items_nil, by rw [items, if_neg visible]; exact h⟩
    | cons item front =>
      obtain ⟨rfl, others⟩ := List.cons.inj h
      obtain ⟨before, behind, whole, first, second⟩ := ih others
      obtain ⟨taken, rest, same⟩ := exists_cut_scan c text
      refine ⟨c :: (taken ++ before), behind, ?_, ?_, second⟩
      · rw [List.cons_append, List.append_assoc, whole, rest]
      · rw [items, if_neg visible, same before (whole ▸ List.prefix_append before behind)]
        simp only [first]

/-- An open quote takes the rest of the text. -/
theorem snd_scan_of_unclosed {c : Char} {text : List Char}
    (h : (scan c text).1 = .error .unclosedQuote) : (scan c text).2 = [] := by
  have of_quotedItem {token : String → Token}
      (h : (quotedItem c token text).1 = .error .unclosedQuote) :
      (quotedItem c token text).2 = [] := by
    unfold quotedItem at h ⊢
    split at h
    · rfl
    · cases h
  unfold scan at h ⊢
  split at h
  · next string => rw [if_pos string]; exact of_quotedItem h
  split at h
  · next string name => rw [if_neg string, if_pos name]; exact of_quotedItem h
  split at h
  · cases h
  split at h
  · cases h
  split at h
  · cases h
  split at h <;> cases h

/-- An open quote is the last item of a text. -/
theorem eq_nil_of_items_eq_append {text : List Char} {front rest : List Item}
    (h : items text = front ++ .error .unclosedQuote :: rest) : rest = [] := by
  obtain ⟨-, behind, -, -, second⟩ := exists_cut_items h
  clear h
  fun_induction items behind with
  | case1 => cases second
  | case2 c text blank ih => exact ih second
  | case3 c text visible _ ih =>
    obtain ⟨unclosed, others⟩ := List.cons.inj second
    rw [← others, snd_scan_of_unclosed unclosed, items_nil]

/-! ## The tokens of texts -/

theorem isLexeme_wordToken (word : List Char) : (wordToken word).IsLexeme := by
  unfold wordToken
  split <;> trivial

theorem isLexeme_operatorToken {word : List Char} (ne_nil : word ≠ [])
    (letters : ∀ c ∈ word, isOperatorChar c = true) : (operatorToken word).IsLexeme := by
  unfold operatorToken
  split
  · trivial
  · next ne_equal =>
    refine ⟨fun e => ne_nil ?_, fun e => ne_equal ?_, ?_⟩
    · rw [← String.toList_ofList (l := word), e]
      rfl
    · rw [← String.toList_ofList (l := word), e]
      rfl
    · rwa [String.toList_ofList]

/-- A token that is cut out of a text can stand in a text. -/
theorem isLexeme_of_scan {c : Char} {text : List Char} {token : Token}
    (h : (scan c text).1 = .ok token) : token.IsLexeme := by
  have of_quotedItem (make : String → Token) (lexeme : ∀ inner, (make inner).IsLexeme)
      (h : (quotedItem c make text).1 = .ok token) : token.IsLexeme := by
    unfold quotedItem at h
    split at h
    · cases h
    · cases h
      exact lexeme _
  unfold scan at h
  split at h
  · exact of_quotedItem .string (fun _ => trivial) h
  split at h
  · exact of_quotedItem .ident (fun _ => trivial) h
  split at h
  · next digit =>
    cases h
    have alone := (cutsOff_takeNumber text).2 [] List.nil_prefix
    rw [List.append_nil] at alone
    exact ⟨c, _, String.toList_ofList, digit, alone⟩
  split at h
  · cases h
    exact isLexeme_wordToken _
  split at h
  · next first =>
    cases h
    exact isLexeme_operatorToken (List.cons_ne_nil _ _)
      (List.forall_mem_cons.2 ⟨first, List.all_eq_true.1 List.all_takeWhile⟩)
  split at h
  · next symbol =>
    cases h
    unfold symbol? at symbol
    split at symbol <;> cases symbol <;> trivial
  · cases h

theorem isLexeme_of_mem_items {text : List Char} {token : Token} (h : .ok token ∈ items text) :
    token.IsLexeme := by
  fun_induction items text with
  | case1 => cases h
  | case2 c text blank ih => exact ih h
  | case3 c text visible _ ih =>
    rcases List.mem_cons.1 h with first | others
    · exact isLexeme_of_scan first.symm
    · exact ih others

end TableQuery.Query
