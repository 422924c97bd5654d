import TableQuery.Text.Utf8

/-!
# Bytes of texts

What is written as UTF-8 is read back. Each character is written as one byte below 128, or as a
first byte and bytes that go on with it, all of them from 128 on. So a byte below 128 stands for a
character of its own wherever it is, and a byte from 128 on that is put between two texts stands for
nothing: the byte behind it does not go on with it.

* `decodeFrom_one` to `decodeFrom_four`: a character that is read, by the number of its bytes;
* `encodeChar_of_lt`, `le_of_mem_encodeChar`, `exists_encodeChar_eq_cons`: the bytes of a character;
* `decode_encode`: a text that was written is read back;
* `decode_encode_stray`: a byte from 128 on behind a text is a fault.
-/

namespace TableQuery.Text.Utf8

/-! ## Reading a character -/

section

variable {a b c d : UInt8}

theorem isContinuation_iff : isContinuation a = true ↔ 0x80 ≤ a.toNat ∧ a.toNat ≤ 0xBF := by
  simp [isContinuation, UInt8.le_iff_toNat_le]

theorem isSecondOfThree_iff : isSecondOfThree a b = true ↔ isContinuation b = true ∧
    (a.toNat = 0xE0 → 0xA0 ≤ b.toNat) ∧ (a.toNat = 0xED → b.toNat ≤ 0x9F) := by
  simp [isSecondOfThree, UInt8.le_iff_toNat_le, ← UInt8.toNat_inj, and_assoc,
    Decidable.imp_iff_not_or]

theorem isSecondOfFour_iff : isSecondOfFour a b = true ↔ isContinuation b = true ∧
    (a.toNat = 0xF0 → 0x90 ≤ b.toNat) ∧ (a.toNat = 0xF4 → b.toNat ≤ 0x8F) := by
  simp [isSecondOfFour, UInt8.le_iff_toNat_le, ← UInt8.toNat_inj, and_assoc,
    Decidable.imp_iff_not_or]

theorem decodeFrom_one (n : Nat) (ha : a.toNat < 0x80) (rest : List UInt8) :
    decodeFrom n (a :: rest) = (Char.ofNat a.toNat :: ·) <$> decodeFrom (n + 1) rest := by
  rw [decodeFrom.eq_def]
  simp only [UInt8.lt_iff_toNat_lt, UInt8.reduceToNat]
  rw [if_pos ha]

theorem decodeFrom_two (n : Nat) (ha : 0xC2 ≤ a.toNat ∧ a.toNat ≤ 0xDF)
    (hb : isContinuation b = true) (rest : List UInt8) :
    decodeFrom n (a :: b :: rest) =
      (Char.ofNat (a.toNat % 32 * 64 + payload b) :: ·) <$> decodeFrom (n + 2) rest := by
  rw [decodeFrom.eq_def]
  simp only [UInt8.lt_iff_toNat_lt, UInt8.le_iff_toNat_le, UInt8.reduceToNat, Bool.and_eq_true,
    decide_eq_true_eq]
  rw [if_neg (by omega), if_pos ha, hb, if_neg (by decide)]

theorem decodeFrom_three (n : Nat) (ha : 0xE0 ≤ a.toNat ∧ a.toNat ≤ 0xEF)
    (hb : isSecondOfThree a b = true) (hc : isContinuation c = true) (rest : List UInt8) :
    decodeFrom n (a :: b :: c :: rest) =
      (Char.ofNat ((a.toNat % 16 * 64 + payload b) * 64 + payload c) :: ·) <$>
        decodeFrom (n + 3) rest := by
  rw [decodeFrom.eq_def]
  simp only [UInt8.lt_iff_toNat_lt, UInt8.le_iff_toNat_le, UInt8.reduceToNat, Bool.and_eq_true,
    decide_eq_true_eq]
  rw [if_neg (by omega), if_neg (by omega), if_pos ha, hb, hc, if_neg (by decide),
    if_neg (by decide)]

theorem decodeFrom_four (n : Nat) (ha : 0xF0 ≤ a.toNat ∧ a.toNat ≤ 0xF4)
    (hb : isSecondOfFour a b = true) (hc : isContinuation c = true) (hd : isContinuation d = true)
    (rest : List UInt8) :
    decodeFrom n (a :: b :: c :: d :: rest) =
      (Char.ofNat (((a.toNat % 8 * 64 + payload b) * 64 + payload c) * 64 + payload d) :: ·) <$>
        decodeFrom (n + 4) rest := by
  rw [decodeFrom.eq_def]
  simp only [UInt8.lt_iff_toNat_lt, UInt8.le_iff_toNat_le, UInt8.reduceToNat, Bool.and_eq_true,
    decide_eq_true_eq]
  rw [if_neg (by omega), if_neg (by omega), if_neg (by omega), if_pos ha, hb, hc, hd,
    if_neg (by decide), if_neg (by decide), if_neg (by decide)]

/-- A byte from 128 on begins no character if it may only go on with one, or if the byte behind it
may not. -/
theorem decodeFrom_stray (n : Nat) (ha : 0x80 ≤ a.toNat)
    (h : isContinuation a = true ∨ isContinuation b = false) (rest : List UInt8) :
    decodeFrom n (a :: b :: rest) = .error ⟨n, some 1⟩ := by
  rw [decodeFrom.eq_def]
  simp only [UInt8.lt_iff_toNat_lt, UInt8.le_iff_toNat_le, UInt8.reduceToNat, Bool.and_eq_true,
    decide_eq_true_eq]
  rw [if_neg (by omega)]
  rcases h with h | h
  · have h := isContinuation_iff.1 h
    rw [if_neg (by omega), if_neg (by omega), if_neg (by omega)]
  · have three : isSecondOfThree a b = false := by rw [isSecondOfThree, h]; rfl
    have four : isSecondOfFour a b = false := by rw [isSecondOfFour, h]; rfl
    simp only [h, three, four, Bool.not_false, if_true, ite_self]

end

/-! ## The bytes of a character -/

section

variable {c : Char}

theorem toNat_valid (c : Char) : c.toNat < 0xD800 ∨ 0xDFFF < c.toNat ∧ c.toNat < 0x110000 :=
  c.valid

theorem encodeChar_of_lt (h : c.toNat < 0x80) :
    String.utf8EncodeChar c = [UInt8.ofNat c.toNat] := by
  rw [String.utf8EncodeChar, show c.val.toNat = c.toNat from rfl, if_pos (Nat.le_of_lt_succ h)]

/-- Each byte of a character that takes more than one byte is from 128 on. -/
theorem le_of_mem_encodeChar (h : 0x80 ≤ c.toNat) {b : UInt8}
    (hb : b ∈ String.utf8EncodeChar c) : 0x80 ≤ b.toNat := by
  rw [String.utf8EncodeChar, show c.val.toNat = c.toNat from rfl, if_neg (by omega)] at hb
  split at hb
  · simp only [List.mem_cons, List.not_mem_nil, or_false] at hb
    rcases hb with rfl | rfl <;> simp <;> omega
  split at hb
  · simp only [List.mem_cons, List.not_mem_nil, or_false] at hb
    rcases hb with rfl | rfl | rfl <;> simp <;> omega
  · simp only [List.mem_cons, List.not_mem_nil, or_false] at hb
    rcases hb with rfl | rfl | rfl | rfl <;> simp <;> omega

/-- The first byte of a character does not go on with another. -/
theorem exists_encodeChar_eq_cons (c : Char) :
    ∃ b rest, String.utf8EncodeChar c = b :: rest ∧ isContinuation b = false := by
  have first {n : Nat} (h : n % 256 < 0x80 ∨ 0xC0 ≤ n % 256) :
      isContinuation (UInt8.ofNat n) = false := by
    rw [Bool.eq_false_iff, Ne, isContinuation_iff, UInt8.toNat_ofNat']
    omega
  rw [String.utf8EncodeChar, show c.val.toNat = c.toNat from rfl]
  split
  · exact ⟨_, _, rfl, first (by omega)⟩
  split
  · exact ⟨_, _, rfl, first (by omega)⟩
  split
  · exact ⟨_, _, rfl, first (by omega)⟩
  · exact ⟨_, _, rfl, first (by have := toNat_valid c; omega)⟩

/-- A character is read back. -/
theorem decodeFrom_encodeChar_append (n : Nat) (c : Char) (rest : List UInt8) :
    decodeFrom n (String.utf8EncodeChar c ++ rest) =
      (c :: ·) <$> decodeFrom (n + (String.utf8EncodeChar c).length) rest := by
  have valid := toNat_valid c
  have char {m : Nat} (e : m = c.toNat) : Char.ofNat m = c := by rw [e, Char.ofNat_toNat]
  rw [String.utf8EncodeChar, show c.val.toNat = c.toNat from rfl]
  split
  · rw [List.cons_append, decodeFrom_one, char]
    · rfl
    · simp; omega
    · simp; omega
  split
  · rw [List.cons_append, List.cons_append, decodeFrom_two, char]
    · rfl
    · simp [payload]; omega
    · simp; omega
    · rw [isContinuation_iff]; simp; omega
  split
  · rw [List.cons_append, List.cons_append, List.cons_append, decodeFrom_three, char]
    · rfl
    · simp [payload]; omega
    · simp; omega
    · rw [isSecondOfThree_iff, isContinuation_iff]; simp; omega
    · rw [isContinuation_iff]; simp; omega
  · rw [List.cons_append, List.cons_append, List.cons_append, List.cons_append, decodeFrom_four,
      char]
    · rfl
    · simp [payload]; omega
    · simp; omega
    · rw [isSecondOfFour_iff, isContinuation_iff]; simp; omega
    · rw [isContinuation_iff]; simp; omega
    · rw [isContinuation_iff]; simp; omega

end

/-! ## Texts -/

section

variable {text : List Char}

theorem encode_cons (c : Char) (text : List Char) :
    encode (c :: text) = String.utf8EncodeChar c ++ encode text :=
  List.flatMap_cons

theorem decodeFrom_encode_append (n : Nat) (text : List Char) (rest : List UInt8) :
    decodeFrom n (encode text ++ rest) =
      (text ++ ·) <$> decodeFrom (n + (encode text).length) rest := by
  induction text generalizing n with
  | nil =>
    show decodeFrom n rest = (fun x => x) <$> decodeFrom (n + 0) rest
    rw [id_map', Nat.add_zero]
  | cons c text ih =>
    rw [encode_cons, List.append_assoc, decodeFrom_encodeChar_append, ih, List.length_append,
      ← Nat.add_assoc, Functor.map_map]
    rfl

/-- What is written is read back. -/
theorem decode_encode (text : List Char) : decode (encode text) = .ok text := by
  have read := decodeFrom_encode_append 0 text []
  rw [List.append_nil] at read
  rw [decode, read, decodeFrom.eq_def]
  show Except.ok (text ++ []) = _
  rw [List.append_nil]

theorem encode_eq_nil_iff : encode text = [] ↔ text = [] := by
  cases text with
  | nil => simp [encode]
  | cons c rest =>
    obtain ⟨b, others, bytes, -⟩ := exists_encodeChar_eq_cons c
    simp [encode_cons, bytes]

theorem isContinuation_head_encode {b : UInt8} {rest : List UInt8} (h : encode text = b :: rest) :
    isContinuation b = false := by
  cases text with
  | nil => cases h
  | cons c text =>
    obtain ⟨first, others, e, begins⟩ := exists_encodeChar_eq_cons c
    rw [encode_cons, e] at h
    cases h
    exact begins

/-- A byte from 128 on behind a text is a fault, if the byte behind it is the same byte or does not
go on with a character. -/
theorem decode_encode_stray {a b : UInt8} (ha : 0x80 ≤ a.toNat)
    (h : b = a ∨ isContinuation b = false) (text : List Char) (rest : List UInt8) :
    decode (encode text ++ a :: b :: rest) = .error ⟨(encode text).length, some 1⟩ := by
  have stray : isContinuation a = true ∨ isContinuation b = false := by
    rcases h with rfl | h
    · exact (Bool.eq_false_or_eq_true (isContinuation b)).imp_right id
    · exact .inr h
  rw [decode, decodeFrom_encode_append, decodeFrom_stray _ ha stray, Nat.zero_add]
  rfl

end

end TableQuery.Text.Utf8
