import Mathlib.Data.List.Basic
import TableQuery.Proofs.Text.Blank
import TableQuery.Text.CaseFold
import TableQuery.Text.Lowercase

/-!
# Plain characters and case

The characters of ASCII and the blanks keep to themselves under a change of case: each is put into
lowercase on its own, as it is folded, and only the letters from A to Z change.

* `forall_toLower`: what is true of a character and its small letter;
* `lowercase_eq_map`: the lowercase of a text of plain characters;
* `trim_map_toLower`: trimming does not depend on case.
-/

namespace TableQuery.Text

/-- Is the character one of the first 128? -/
def isAscii (c : Char) : Bool :=
  c.toNat < 128

/-- What is true of the 128 characters of ASCII. -/
theorem forall_ascii {p : Char → Prop} (all : ∀ n ∈ List.range 128, p (Char.ofNat n)) {c : Char}
    (h : isAscii c = true) : p c := by
  have found := all c.toNat (List.mem_range.2 (of_decide_eq_true h))
  rwa [Char.ofNat_toNat] at found

/-! ## Small letters -/

/-- A relation of a character to its small letter holds of all if it holds of the letters from A to
Z and of the other characters, which do not change. -/
theorem forall_toLower {r : Char → Char → Prop}
    (capitals : ∀ n ∈ List.range 26, r (Char.ofNat (n + 65)) (Char.ofNat (n + 65)).toLower)
    (others : ∀ c, ¬('A' ≤ c ∧ c ≤ 'Z') → r c c) (c : Char) : r c c.toLower := by
  by_cases range : 'A' ≤ c ∧ c ≤ 'Z'
  · have low : 65 ≤ c.toNat := range.1
    have high : c.toNat ≤ 90 := range.2
    have found := capitals (c.toNat - 65) (List.mem_range.2 (by omega))
    rwa [Nat.sub_add_cancel low, Char.ofNat_toNat] at found
  · have kept : c.toLower = c := dif_neg range
    rw [kept]
    exact others c range

theorem isBlank_toLower (c : Char) : isBlank c.toLower = isBlank c :=
  forall_toLower (r := fun c d => isBlank d = isBlank c) (by decide) (fun _ _ => rfl) c

theorem isAscii_toLower (c : Char) : isAscii c.toLower = isAscii c :=
  forall_toLower (r := fun c d => isAscii d = isAscii c) (by decide) (fun _ _ => rfl) c

/-! ## Lowercase of plain texts -/

/-- The characters of ASCII and the blanks. -/
def isPlain (c : Char) : Bool :=
  isAscii c || isBlank c

/-- What is true of the characters of ASCII and of the twenty-five blanks. -/
theorem forall_plain {p : Char → Prop} (ascii : ∀ n ∈ List.range 128, p (Char.ofNat n))
    (blanks : ∀ n ∈ blankPoints, p (Char.ofNat n)) {c : Char} (h : isPlain c = true) : p c := by
  rcases Bool.or_eq_true_iff.1 h with h | h
  · exact forall_ascii ascii h
  · have found := blanks c.toNat (mem_blankPoints h)
    rwa [Char.ofNat_toNat] at found

theorem lowercaseChar_of_isPlain {c : Char} (h : isPlain c = true) :
    lowercaseChar c = [c.toLower] :=
  forall_plain (p := fun c => lowercaseChar c = [c.toLower]) (by decide +kernel)
    (by decide +kernel) h

theorem foldChar_of_isAscii {c : Char} (h : isAscii c = true) : foldChar c = c.toLower :=
  forall_ascii (p := fun c => foldChar c = c.toLower) (by decide +kernel) h

/-- The lowercase of a text of plain characters, letter by letter. -/
theorem lowercase_eq_map {text : List Char} (h : ∀ c ∈ text, isPlain c = true) :
    lowercase text = text.map Char.toLower := by
  have noSigma : 'Σ' ∉ text := fun hm => absurd (h 'Σ' hm) (by decide)
  rw [lowercase_eq_flatMap noSigma, List.map_eq_flatMap]
  exact List.flatMap_congr fun c hc => lowercaseChar_of_isPlain (h c hc)

theorem isPlain_of_isAscii {c : Char} (h : isAscii c = true) : isPlain c = true :=
  Bool.or_eq_true_iff.2 (.inl h)

/-- A text of ASCII has the same letters folded and in lowercase. -/
theorem map_foldChar_of_ascii {text : List Char} (h : ∀ c ∈ text, isAscii c = true) :
    text.map foldChar = lowercase text := by
  rw [lowercase_eq_map fun c hc => isPlain_of_isAscii (h c hc)]
  exact List.map_congr_left fun c hc => foldChar_of_isAscii (h c hc)

/-! ## Trimming -/

theorem trimStart_map_toLower (text : List Char) :
    trimStart (text.map Char.toLower) = (trimStart text).map Char.toLower := by
  have same : isBlank ∘ Char.toLower = isBlank := funext isBlank_toLower
  rw [trimStart, List.dropWhile_map, same, trimStart]

theorem trim_map_toLower (text : List Char) :
    trim (text.map Char.toLower) = (trim text).map Char.toLower := by
  rw [trim, trimEnd, trimStart_map_toLower, ← List.map_reverse, trimStart_map_toLower,
    ← List.map_reverse, trim, trimEnd]

theorem mem_trimStart_or {c : Char} {text : List Char} (h : c ∈ text) :
    isBlank c = true ∨ c ∈ trimStart text := by
  rw [← List.takeWhile_append_dropWhile (p := isBlank) (l := text)] at h
  exact (List.mem_append.1 h).imp_left fun h => List.all_eq_true.1 List.all_takeWhile c h

/-- Trimming takes nothing away but blanks. -/
theorem mem_trim_or {c : Char} {text : List Char} (h : c ∈ text) :
    isBlank c = true ∨ c ∈ trim text := by
  rcases mem_trimStart_or h with blank | h
  · exact .inl blank
  · rw [trim, trimEnd, List.mem_reverse]
    exact mem_trimStart_or (List.mem_reverse.2 h)

/-- A text is plain if it is trimmed to characters of ASCII. -/
theorem isPlain_of_trim {text : List Char} (h : ∀ c ∈ trim text, isAscii c = true) :
    ∀ c ∈ text, isPlain c = true := fun c hc =>
  Bool.or_eq_true_iff.2 ((mem_trim_or hc).elim .inr fun hc => .inl (h c hc))

end TableQuery.Text
