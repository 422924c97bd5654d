import TableQuery.Proofs.Query.Cut
import TableQuery.Proofs.Text.Trim

/-!
# Items one after the other

The items of a text are what one call after the other yields until nothing but blanks is left. Each
call goes forward by the characters of its item, of which there is one at least, so the calls come
to an end. A character that begins no token is gone past alone. Where an item ends does not depend
on what stands behind a blank, so a text that is cut at blanks gives the items of its two parts.

* `nextItem?`: one call, and `exists_taken_of_nextItem?`, all that it can do;
* `Calls`: the calls on a text up to the last one;
* `exists_calls`, `Calls.unique`: there is an end, and only one way to it;
* `Calls.takes`, `Calls.flatten_append`: what the calls take off the text;
* `Calls.items_eq`, `Calls.length_le`: what they yield;
* `lexing_advances`: this for every query, and that blanks cut it.
-/

namespace TableQuery.Query

open Text (isBlank trimStart)

/-! ## One call -/

/-- The first item of a text and what is left behind it; nothing if there are only blanks. -/
def nextItem? (text : List Char) : Option (Item × List Char) :=
  match trimStart text with
  | [] => none
  | c :: rest => some (scan c rest)

theorem isBlank_of_mem_takeWhile {text : List Char} : ∀ b ∈ text.takeWhile isBlank, isBlank b :=
  List.all_eq_true.1 List.all_takeWhile

theorem items_trimStart (text : List Char) : items (trimStart text) = items text := by
  rw [← items_blank_append isBlank_of_mem_takeWhile (trimStart text), trimStart,
    List.takeWhile_append_dropWhile]

/-- A character that begins no token is an item by itself. -/
theorem scan_of_unexpected {c d : Char} {rest : List Char} :
    (scan c rest).1 = .error (.unexpectedCharacter d) → d = c ∧ (scan c rest).2 = rest := by
  have quoted (token : String → Token) :
      (quotedItem c token rest).1 ≠ .error (.unexpectedCharacter d) := by
    unfold quotedItem
    split <;> exact nofun
  unfold scan
  split
  · exact fun h => absurd h (quoted .string)
  split
  · exact fun h => absurd h (quoted .ident)
  split
  · exact nofun
  split
  · exact nofun
  split
  · exact nofun
  split
  · exact nofun
  · rintro ⟨⟩
    exact ⟨rfl, rfl⟩

section

variable {text rest : List Char} {item : Item}

theorem items_of_nextItem?_eq_none (h : nextItem? text = none) : items text = [] := by
  rw [← items_trimStart]
  unfold nextItem? at h
  split at h
  · next nothing => rw [nothing, items_nil]
  · cases h

theorem items_of_nextItem? (h : nextItem? text = some (item, rest)) :
    items text = item :: items rest := by
  rw [← items_trimStart]
  unfold nextItem? at h
  split at h
  · cases h
  · next c behind begins =>
    have visible : isBlank c = false := Text.isBlank_head_trimStart text c (by rw [begins]; rfl)
    rw [begins, items_cons visible, Option.some.inj h]

/-- A call takes characters off the front of a text: blanks, and then at least one character for its
item. -/
theorem exists_taken_of_nextItem? (h : nextItem? text = some (item, rest)) :
    ∃ gap c inner, gap ++ c :: inner ++ rest = text ∧ (∀ b ∈ gap, isBlank b = true) ∧
      ∀ d, item = .error (.unexpectedCharacter d) → d = c ∧ inner = [] := by
  unfold nextItem? at h
  split at h
  · cases h
  · next c behind begins =>
    have scanned := Option.some.inj h
    obtain ⟨inner, whole, -⟩ := exists_cut_scan c behind
    rw [scanned] at whole
    refine ⟨text.takeWhile isBlank, c, inner, ?_, isBlank_of_mem_takeWhile, fun d unexpected => ?_⟩
    · rw [List.append_assoc, List.cons_append, whole, ← begins]
      exact List.takeWhile_append_dropWhile
    · have error : (scan c behind).1 = .error (.unexpectedCharacter d) := by
        rw [scanned]
        exact unexpected
      obtain ⟨same, alone⟩ := scan_of_unexpected error
      refine ⟨same, ?_⟩
      rw [scanned] at alone
      exact List.append_left_eq_self.1 (whole.trans alone.symm)

theorem length_lt_of_nextItem? (h : nextItem? text = some (item, rest)) :
    rest.length < text.length := by
  obtain ⟨gap, c, inner, rfl, -⟩ := exists_taken_of_nextItem? h
  simp only [List.length_append, List.length_cons]
  omega

end

/-! ## All calls -/

/-- The calls on a text until they yield nothing: what each of them takes off the text, and the item
that it yields. -/
inductive Calls : List Char → List (List Char × Item) → Prop
  | done {text : List Char} (h : nextItem? text = none) : Calls text []
  | more {text taken rest : List Char} {item : Item} {calls : List (List Char × Item)}
      (h : nextItem? text = some (item, rest)) (whole : taken ++ rest = text)
      (later : Calls rest calls) : Calls text ((taken, item) :: calls)

/-- What a call takes off a text: a character at least, and of the visible ones this alone if it
begins no token. -/
structure Takes (taken : List Char) (item : Item) : Prop where
  ne_nil : taken ≠ []
  alone : ∀ c, item = .error (.unexpectedCharacter c) →
    ∃ gap, (∀ b ∈ gap, isBlank b = true) ∧ taken = gap ++ [c]

theorem exists_calls (text : List Char) : ∃ calls, Calls text calls := by
  -- each call leaves less text for the next one
  induction size : text.length using Nat.strongRecOn generalizing text with
  | ind n ih =>
    cases call : nextItem? text with
    | none => exact ⟨[], .done call⟩
    | some found =>
      obtain ⟨item, rest⟩ := found
      obtain ⟨calls, later⟩ := ih _ (size ▸ length_lt_of_nextItem? call) rest rfl
      obtain ⟨gap, c, inner, whole, -⟩ := exists_taken_of_nextItem? call
      exact ⟨_, .more call whole later⟩

namespace Calls

variable {text : List Char} {calls others : List (List Char × Item)}

theorem unique (h : Calls text calls) (h' : Calls text others) : others = calls := by
  induction h generalizing others with
  | done call =>
    cases h' with
    | done => rfl
    | more call' => rw [call] at call'; cases call'
  | more call whole later ih =>
    cases h' with
    | done call' => rw [call] at call'; cases call'
    | more call' whole' later' =>
      rw [call] at call'
      cases call'
      rw [ih later', List.append_cancel_right (whole'.trans whole.symm)]

theorem items_eq (h : Calls text calls) : items text = calls.map Prod.snd := by
  induction h with
  | done call => exact items_of_nextItem?_eq_none call
  | more call whole later ih => rw [items_of_nextItem? call, ih, List.map_cons]

/-- What the calls have taken, and the blanks that are left, make up the text. -/
theorem flatten_append (h : Calls text calls) :
    ∃ gap, (∀ b ∈ gap, isBlank b = true) ∧ (calls.map Prod.fst).flatten ++ gap = text := by
  induction h with
  | @done text call =>
    refine ⟨text, fun b hb => ?_, rfl⟩
    unfold nextItem? at call
    split at call
    · next nothing => exact List.all_eq_true.1 ((Text.trimStart_eq_nil_iff text).1 nothing) b hb
    · cases call
  | more call whole later ih =>
    obtain ⟨gap, blank, rest⟩ := ih
    refine ⟨gap, blank, ?_⟩
    rw [List.map_cons, List.flatten_cons, List.append_assoc, rest, whole]

theorem takes (h : Calls text calls) : ∀ call ∈ calls, Takes call.1 call.2 := by
  induction h with
  | done => exact fun _ hc => absurd hc List.not_mem_nil
  | more call whole later ih =>
    obtain ⟨gap, c, inner, whole', blank, unexpected⟩ := exists_taken_of_nextItem? call
    obtain rfl := List.append_cancel_right (whole.trans whole'.symm)
    refine List.forall_mem_cons.2 ⟨⟨by simp, fun d error => ?_⟩, ih⟩
    obtain ⟨rfl, rfl⟩ := unexpected d error
    exact ⟨gap, blank, rfl⟩

theorem length_le (h : Calls text calls) : calls.length ≤ text.length := by
  induction h with
  | done => exact Nat.zero_le _
  | more call whole later ih =>
    exact Nat.succ_le_of_lt (Nat.lt_of_le_of_lt ih (length_lt_of_nextItem? call))

end Calls

/-- The calls on a query come to an end, in one way, and yield its items, of which there are no more
than characters. Each call goes on where the one before it ended and takes a character at least, and
no more than that one if it begins no token; only blanks are left in the end. If no quote is left
open, blanks and more text behind a query leave its items as they are, and the items of that text
follow. -/
theorem lexing_advances (query : String) :
    (∃ calls, Calls query.toList calls ∧ (∀ others, Calls query.toList others → others = calls) ∧
      calls.map Prod.snd = lex query ∧ (lex query).length ≤ query.length ∧
      (∀ call ∈ calls, Takes call.1 call.2) ∧
      ∃ gap, (∀ b ∈ gap, isBlank b = true) ∧
        (calls.map Prod.fst).flatten ++ gap = query.toList) ∧
      ∀ gap more : String, gap ≠ "" → Text.allBlank gap = true →
        .error .unclosedQuote ∉ lex query → lex (query ++ gap ++ more) = lex query ++ lex more := by
  refine ⟨?_, fun gap more nonempty blank closed => ?_⟩
  · obtain ⟨calls, h⟩ := exists_calls query.toList
    have yielded : lex query = calls.map Prod.snd := h.items_eq
    refine ⟨calls, h, fun _ => h.unique, yielded.symm, ?_, h.takes, h.flatten_append⟩
    rw [yielded, List.length_map]
    exact h.length_le
  · have blanks : ∀ b ∈ gap.toList, isBlank b = true := List.all_eq_true.1 blank
    obtain ⟨b, others, begins⟩ :=
      List.exists_cons_of_ne_nil (mt String.toList_eq_nil_iff.1 nonempty)
    rw [begins] at blanks
    rw [lex, lex, lex, String.toList_append, String.toList_append, begins, List.append_assoc,
      List.cons_append, items_append (blanks b List.mem_cons_self) closed,
      items_blank_append fun c hc => blanks c (List.mem_cons_of_mem _ hc)]

/-- Blanks end a number that would go on with an exponent. -/
theorem lexing_advances_exponent :
    lex "~1e" = [.error (.unexpectedCharacter '~'), .ok (.number "1"), .ok (.ident "e")] ∧
      lex ("~1e" ++ " \n" ++ "+5 'x") = lex "~1e" ++ lex "+5 'x" ∧
      lex "~1e+5 'x" = [.error (.unexpectedCharacter '~'), .ok (.number "1e+5"),
        .error .unclosedQuote] :=
  ⟨by decide +kernel, (lexing_advances "~1e").2 " \n" "+5 'x" (by decide) (by decide +kernel)
    (by decide +kernel), by decide +kernel⟩

end TableQuery.Query
