import TableQuery.CommandLine.Arguments
import TableQuery.Proofs.Query.Outcome

/-!
# Words behind two dashes

Two dashes are never the value of an option, so that behind them there are plain words only. Hence
the last word of a command that has them is its query, whatever stands in it, and the rest of what
is asked for does not depend on it.

* `addPlains_append`, `addWords_append`: the last word is the query;
* `readArguments_append`: the words of a command with another query;
* `inPlace_of_readArguments`: what `--in-place` stands for is asked for by this word only.
-/

namespace TableQuery.CommandLine

open Query (bind_eq_ok)

/-! ## The query -/

namespace Given

variable {given : Given} {words : List String} {query : String} {options : Options}

/-- A step that goes on after the same first one, and comes to something whenever it does. -/
theorem ok_of_bind {x : Except UsageFault Given} {f g : Given → Except UsageFault Request}
    {a b : Request} (goes : ∀ next, f next = .ok a → g next = .ok b) (h : x >>= f = .ok a) :
    x >>= g = .ok b := by
  obtain ⟨next, added, asked⟩ := bind_eq_ok.1 h
  exact bind_eq_ok.2 ⟨next, added, goes next asked⟩

theorem addPlains_append (h : given.addPlains (words ++ [query]) = .ok (.run options))
    (other : String) :
    given.addPlains (words ++ [other]) = .ok (.run { options with query := other }) := by
  induction words generalizing given with
  | nil =>
    obtain ⟨last, added, asked⟩ := bind_eq_ok.1 h
    obtain ⟨plain, delimiter, config, noHeader, inPlace, json⟩ := given
    rcases plain with _ | ⟨file, _ | ⟨surplus, rest⟩⟩
    · -- the word would be the file, and there is no query
      simp only [addPlain] at added
      split at added
      · cases added
      · cases added
        cases asked
    · cases added
      cases asked
      rfl
    · cases added
  | cons word rest ih => exact ok_of_bind (fun _ => ih) h

/-- Two dashes are no value, so that an option before them has to have its own. -/
theorem isValue_dashes : isValue "--" = false := by
  decide

theorem addWords_append (marked : "--" ∈ words)
    (h : given.addWords (words ++ [query]) = .ok (.run options)) (other : String) :
    given.addWords (words ++ [other]) = .ok (.run { options with query := other }) := by
  induction given, words using addWords.induct with
  | case1 given => cases marked
  | case2 given rest =>
    rw [List.cons_append, addWords, if_pos rfl] at h ⊢
    exact addPlains_append h other
  | case3 given word rest dashes kind
  | case4 given word rest dashes kind
  | case5 given word rest dashes kind
  | case6 given word rest dashes kind =>
    rw [List.cons_append, addWords, if_neg dashes, kind] at h
    cases h
  | case7 given word rest dashes kind ih
  | case8 given word rest dashes switch kind ih
  | case9 given word rest dashes setting value kind ih =>
    rw [List.cons_append, addWords, if_neg dashes, kind] at h ⊢
    exact ok_of_bind (fun next => ih next (List.mem_of_ne_of_mem (Ne.symm dashes) marked)) h
  | case10 given word dashes setting kind =>
    exact absurd (List.mem_singleton.1 marked).symm dashes
  | case11 given word dashes setting kind value rest isValue ih =>
    have later : "--" ∈ rest := by
      refine List.mem_of_ne_of_mem ?_ (List.mem_of_ne_of_mem (Ne.symm dashes) marked)
      rintro rfl
      cases isValue_dashes.symm.trans isValue
    rw [List.cons_append, List.cons_append, addWords, if_neg dashes, kind] at h ⊢
    simp only [isValue, if_true] at h ⊢
    exact ok_of_bind (fun next => ih next later) h
  | case12 given word dashes setting kind value rest isValue =>
    rw [List.cons_append, List.cons_append, addWords, if_neg dashes, kind] at h
    simp only [isValue] at h
    cases h

end Given

/-- A command with another query behind its two dashes. -/
theorem readArguments_append {words : List String} {query : String} {options : Options}
    (marked : "--" ∈ words) (h : readArguments (words ++ [query]) = .ok (.run options))
    (other : String) :
    readArguments (words ++ [other]) = .ok (.run { options with query := other }) :=
  Given.addWords_append marked h other

/-! ## The change in place -/

theorem alone_eq_switch {word : Word} {switch : Switch} {value : Option (List Char)}
    (h : alone word value = .switch switch) : word = .switch switch ∧ value = none := by
  cases value with
  | none => exact ⟨h, rfl⟩
  | some value => cases h

theorem longWord_eq_inPlace {name : String} {value : Option (List Char)}
    (h : longWord name value = .switch .inPlace) : name = "in-place" ∧ value = none := by
  unfold longWord at h
  split at h
  · cases h
  · cases h
  · cases (alone_eq_switch h).1
  · exact ⟨rfl, (alone_eq_switch h).2⟩
  · cases (alone_eq_switch h).1
  · cases (alone_eq_switch h).1
  · cases (alone_eq_switch h).1
  · cases h

/-- A word without a value is its name. -/
theorem takeWhile_of_attachedLong {text : List Char} (h : attachedLong text = none) :
    text.takeWhile (· ≠ '=') = text := by
  have parts := List.takeWhile_append_dropWhile (p := (· ≠ '=')) (l := text)
  unfold attachedLong at h
  split at h
  · next behind => rwa [behind, List.append_nil] at parts
  · cases h

/-- The one word that asks for a change in place. -/
theorem wordOf_eq_inPlace {word : String} (h : wordOf word.toList = .switch .inPlace) :
    word = "--in-place" := by
  unfold wordOf at h
  split at h
  · next text shape =>
    obtain ⟨name, value⟩ := longWord_eq_inPlace h
    rw [takeWhile_of_attachedLong value] at name
    rw [← String.ofList_toList (s := word), shape, ← String.toList_ofList (l := text), name]
    rfl
  · split at h <;> cases h
  · cases h

namespace Given

variable {given next : Given} {words : List String} {word : String} {options : Options}

theorem inPlace_of_addPlain (h : given.addPlain word = .ok next) :
    next.inPlace = given.inPlace := by
  unfold addPlain at h
  split at h
  · split at h
    · cases h
    · cases h; rfl
  · cases h; rfl
  · cases h

theorem inPlace_of_addSetting {value : List Char} {setting : Setting}
    (h : given.addSetting word value setting = .ok next) : next.inPlace = given.inPlace := by
  unfold addSetting at h
  split at h
  · split at h
    · cases h
    · split at h
      · cases h; rfl
      · cases h
  · split at h
    · cases h
    · split at h
      · cases h
      · cases h; rfl

theorem inPlace_of_addSwitch {switch : Switch} (other : switch ≠ .inPlace)
    (h : given.addSwitch word switch = .ok next) : next.inPlace = given.inPlace := by
  unfold addSwitch at h
  split at h
  · split at h
    · cases h
    · cases h; rfl
  · exact absurd rfl other
  · split at h
    · cases h
    · cases h; rfl

theorem inPlace_of_request (h : given.request = .ok (.run options)) :
    options.inPlace = given.inPlace := by
  unfold request at h
  split at h
  · cases h; rfl
  · cases h

theorem inPlace_of_addPlains (h : given.addPlains words = .ok (.run options)) :
    options.inPlace = given.inPlace := by
  induction words generalizing given with
  | nil => exact inPlace_of_request h
  | cons word rest ih =>
    obtain ⟨next, added, asked⟩ := bind_eq_ok.1 h
    rw [ih asked, inPlace_of_addPlain added]

theorem inPlace_of_addWords (absent : "--in-place" ∉ words)
    (h : given.addWords words = .ok (.run options)) : options.inPlace = given.inPlace := by
  induction given, words using addWords.induct with
  | case1 given => exact inPlace_of_request h
  | case2 given rest =>
    rw [addWords, if_pos rfl] at h
    exact inPlace_of_addPlains h
  | case3 given word rest dashes kind
  | case4 given word rest dashes kind
  | case5 given word rest dashes kind
  | case6 given word rest dashes kind =>
    rw [addWords, if_neg dashes, kind] at h
    cases h
  | case7 given word rest dashes kind ih =>
    rw [addWords, if_neg dashes, kind] at h
    obtain ⟨next, added, asked⟩ := bind_eq_ok.1 h
    rw [ih next (List.not_mem_of_not_mem_cons absent) asked, inPlace_of_addPlain added]
  | case8 given word rest dashes switch kind ih =>
    rw [addWords, if_neg dashes, kind] at h
    obtain ⟨next, added, asked⟩ := bind_eq_ok.1 h
    have other : switch ≠ .inPlace := by
      rintro rfl
      exact absent (List.mem_cons.2 (.inl (wordOf_eq_inPlace kind).symm))
    rw [ih next (List.not_mem_of_not_mem_cons absent) asked, inPlace_of_addSwitch other added]
  | case9 given word rest dashes setting value kind ih =>
    rw [addWords, if_neg dashes, kind] at h
    obtain ⟨next, added, asked⟩ := bind_eq_ok.1 h
    rw [ih next (List.not_mem_of_not_mem_cons absent) asked, inPlace_of_addSetting added]
  | case10 given word dashes setting kind =>
    rw [addWords, if_neg dashes, kind] at h
    cases h
  | case11 given word dashes setting kind value rest isValue ih =>
    rw [addWords, if_neg dashes, kind] at h
    simp only [isValue, if_true] at h
    obtain ⟨next, added, asked⟩ := bind_eq_ok.1 h
    have later := List.not_mem_of_not_mem_cons (List.not_mem_of_not_mem_cons absent)
    rw [ih next later asked, inPlace_of_addSetting added]
  | case12 given word dashes setting kind value rest isValue =>
    rw [addWords, if_neg dashes, kind] at h
    simp only [isValue] at h
    cases h

end Given

/-- Without the word for it, no change in place is asked for. -/
theorem inPlace_of_readArguments {words : List String} {options : Options}
    (absent : "--in-place" ∉ words) (h : readArguments words = .ok (.run options)) :
    options.inPlace = false :=
  Given.inPlace_of_addWords absent h

end TableQuery.CommandLine
