import TableQuery.Cell
import TableQuery.Proofs.Number.Letters
import TableQuery.Proofs.Text.Trim

/-!
# Fields and cells

A field that is read as a cell and written again comes back as it was, but for two kinds of fields:
a blank one comes back empty, and one that spells a truth value comes back in small letters and
without blanks around it. This needs no arithmetic: a number is only read from the very text that
it is written as.

* `text_infer`: the text of the cell of a field;
* `infer_text_infer`: the text of a cell that was read gives the same cell again;
* `isFinite_of_infer`: a double that was read is finite;
* `infer_of_underscore`: a trimmed field with an underscore is a text.
-/

namespace TableQuery.Cell

open Text (trim trimmed allBlank)

/-- What a field comes back as once it has been read as a cell. -/
def normalForm (field : String) : String :=
  let word := (trim field.toList).map Char.toLower
  if allBlank field then ""
  else if word = "true".toList ∨ word = "false".toList then String.ofList word
  else field

theorem length_normalForm_le (field : String) : (normalForm field).length ≤ field.length := by
  rw [normalForm]
  split
  · exact Nat.zero_le _
  split
  · rw [String.length_ofList, List.length_map]
    exact Text.length_trim_le _
  · exact Nat.le_refl _

/-- Cells whose text gives them back. -/
def IsStable (cell : Cell) : Prop :=
  infer cell.text = cell

theorem text_of_readInt? {text : List Char} {i : Int64} (h : readInt? text = some i) :
    (int i).text = String.ofList text := by
  simp only [readInt?, Option.bind_eq_some_iff, Option.ite_none_right_eq_some] at h
  obtain ⟨value, -, ⟨low, high, same⟩, e⟩ := h
  have exact : i.toInt = value := by
    rw [← Option.some.inj e]
    refine Int64.toInt_ofInt_of_le ?_ ?_
    · exact low
    · exact Int.lt_of_le_sub_one high
  rw [Cell.text, exact, same]

theorem text_of_readFloat? {text : List Char} {d : Double} (h : readFloat? text = some d) :
    (float d).text = String.ofList text := by
  simp only [readFloat?, Option.filter_eq_some_iff, Bool.and_eq_true, decide_eq_true_eq] at h
  rw [Cell.text, h.2.2]

theorem readBool?_eq_some_iff {text : List Char} {b : Bool} :
    readBool? text = some b ↔ text.map Char.toLower = (bool b).text.toList := by
  have names_ne : "true".toList ≠ "false".toList := by decide
  rw [readBool?]
  split
  · next e =>
    cases b with
    | true => exact ⟨fun _ => e, fun _ => rfl⟩
    | false => exact ⟨nofun, fun h => absurd (e.symm.trans h) names_ne⟩
  split
  · next e =>
    cases b with
    | true => exact ⟨nofun, fun h => absurd (h.symm.trans e) names_ne⟩
    | false => exact ⟨fun _ => e, fun _ => rfl⟩
  · next ht hf =>
    cases b with
    | true => exact ⟨nofun, fun h => absurd h ht⟩
    | false => exact ⟨nofun, fun h => absurd h hf⟩

theorem readBool?_eq_none_iff {text : List Char} : readBool? text = none ↔
    ¬(text.map Char.toLower = "true".toList ∨ text.map Char.toLower = "false".toList) := by
  rw [readBool?]
  split
  · next e => exact ⟨nofun, fun hn => absurd (.inl e) hn⟩
  split
  · next e => exact ⟨nofun, fun hn => absurd (.inr e) hn⟩
  · next ht hf => exact ⟨fun _ => not_or.2 ⟨ht, hf⟩, fun _ => rfl⟩

/-- A field that is neither blank nor the name of a truth value gives a cell with its own text. -/
theorem text_infer_of_readBool?_eq_none {field : String} (hb : trim field.toList ≠ [])
    (h : readBool? (trim field.toList) = none) : (infer field).text = field := by
  rw [infer, List.isEmpty_eq_false_iff.2 hb, h]
  simp only [Bool.false_eq_true, if_false]
  split
  · next same =>
    have back : String.ofList (trim field.toList) = field := by rw [same, String.ofList_toList]
    cases hi : readInt? (trim field.toList) with
    | some i => exact (text_of_readInt? hi).trans back
    | none =>
      cases hf : readFloat? (trim field.toList) with
      | some d => exact (text_of_readFloat? hf).trans back
      | none => rfl
  · rfl

theorem infer_of_readBool?_eq_some {field : String} {b : Bool}
    (h : readBool? (trim field.toList) = some b) : infer field = bool b := by
  have hb : trim field.toList ≠ [] := by
    intro e
    rw [e] at h
    cases h
  rw [infer, List.isEmpty_eq_false_iff.2 hb, h]
  rfl

theorem infer_of_trim_eq_nil {field : String} (h : trim field.toList = []) :
    infer field = null := by
  rw [infer, h]
  rfl

/-- The three kinds of fields: blank ones, truth values and those that come back as they are. -/
theorem infer_cases (field : String) :
    infer field = null ∨ (∃ b, infer field = bool b) ∨ (infer field).text = field := by
  by_cases hb : trim field.toList = []
  · exact .inl (infer_of_trim_eq_nil hb)
  · cases h : readBool? (trim field.toList) with
    | some b => exact .inr (.inl ⟨b, infer_of_readBool?_eq_some h⟩)
    | none => exact .inr (.inr (text_infer_of_readBool?_eq_none hb h))

/-- Inference is stable: the text of the cell of a field gives the same cell. -/
theorem infer_text_infer (field : String) : (infer field).IsStable := by
  rcases infer_cases field with e | ⟨b, e⟩ | e
  · rw [IsStable, e, infer_text_null]
  · rw [IsStable, e, infer_text_bool]
  · rw [IsStable, e]

theorem isStable_null : null.IsStable :=
  infer_text_null

theorem text_infer (field : String) : (infer field).text = normalForm field := by
  have blank : allBlank field = true ↔ trim field.toList = [] := (Text.trim_eq_nil_iff _).symm
  rw [normalForm]
  by_cases hb : trim field.toList = []
  · rw [infer_of_trim_eq_nil hb, if_pos (blank.2 hb)]
    rfl
  · simp only [mt blank.1 hb, Bool.false_eq_true, if_false]
    cases h : readBool? (trim field.toList) with
    | some b =>
      have word := readBool?_eq_some_iff.1 h
      rw [infer_of_readBool?_eq_some h, if_pos, word, String.ofList_toList]
      rw [word]
      cases b <;> simp [Cell.text]
    | none => rw [text_infer_of_readBool?_eq_none hb h, if_neg (readBool?_eq_none_iff.1 h)]

/-! ## Fields with a double -/

theorem readFloat?_of_infer {field : String} {d : Double} (h : infer field = .float d) :
    readFloat? (trim field.toList) = some d := by
  simp only [infer] at h
  split at h
  · cases h
  split at h
  · cases h
  split at h
  · split at h
    · cases h
    · next found =>
      cases h
      exact found
    · cases h
  · cases h

/-- Doubles that are no number or infinite are never read from a field. -/
theorem isFinite_of_infer {field : String} {d : Double} (h : infer field = .float d) :
    d.isFinite = true := by
  have read := readFloat?_of_infer h
  rw [readFloat?, Option.filter_eq_some_iff, Bool.and_eq_true] at read
  exact read.2.1

/-! ## Fields with an underscore -/

theorem readBool?_eq_none_of_underscore {text : List Char} (h : '_' ∈ text) :
    readBool? text = none := by
  have low : '_' ∈ text.map Char.toLower := List.mem_map.2 ⟨'_', h, by decide⟩
  refine readBool?_eq_none_iff.2 ?_
  rintro (e | e) <;> exact absurd (e ▸ low) (by decide)

/-- A trimmed field with an underscore is no number and no truth value. -/
theorem infer_of_underscore {field : String} (h : '_' ∈ field.toList)
    (ht : trimmed field = field) : infer field = string field := by
  have same : trim field.toList = field.toList := by
    rw [← String.toList_inj, trimmed, String.toList_ofList] at ht
    exact ht
  have nonempty : field.toList.isEmpty = false := by
    rw [List.isEmpty_eq_false_iff]
    exact List.ne_nil_of_mem h
  have noInt : readInt? field.toList = none := by
    rw [readInt?, Number.readInt?_eq_none h]
    rfl
  have noFloat : readFloat? field.toList = none := by
    rw [readFloat?, Number.readDouble?_eq_none h]
    rfl
  rw [infer, same, nonempty, readBool?_eq_none_of_underscore h]
  simp only [noInt, noFloat, Bool.false_eq_true, if_false, if_true]

end TableQuery.Cell
