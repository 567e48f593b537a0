import TypedTemplate.Proofs.Source.Slice

namespace TypedTemplate.Source

-- What a text is kept as. A newline is one byte there, and that byte stands for nothing else.
def encode (text : List Char) : List UInt8 := text.flatMap String.utf8EncodeChar

def bytes (source : String) : List UInt8 := source.toUTF8.data.toList

def newline : UInt8 := 10

theorem bytes_eq_encode (source : String) : bytes source = encode source.toList := by
  have same : source.toUTF8 = source.toList.utf8Encode := String.utf8Encode_toList.symm
  rw [bytes, same, List.utf8Encode, List.toList_data_toByteArray, encode]

theorem encode_cons (c : Char) (rest : List Char) : encode (c :: rest) = String.utf8EncodeChar c ++ encode rest := rfl

theorem encode_append (a b : List Char) : encode (a ++ b) = encode a ++ encode b := List.flatMap_append

theorem length_encode (text : List Char) : (encode text).length = byteLength text := by
  induction text with
  | nil => rfl
  | cons c rest ih =>
    rw [encode_cons, List.length_append, String.length_utf8EncodeChar, ih, byteLength]

theorem high_of_mem_utf8EncodeChar {c : Char} {byte : UInt8} (wide : 127 < c.toNat)
    (present : byte ∈ String.utf8EncodeChar c) : 127 < byte.toNat := by
  have wide' : ¬c.val.toNat ≤ 127 := Nat.not_le.mpr wide
  simp only [String.utf8EncodeChar, if_neg wide'] at present
  split at present
  · simp only [List.mem_cons, List.not_mem_nil, or_false] at present
    rcases present with rfl | rfl <;> simp <;> omega
  · split at present
    · simp only [List.mem_cons, List.not_mem_nil, or_false] at present
      rcases present with rfl | rfl | rfl <;> simp <;> omega
    · simp only [List.mem_cons, List.not_mem_nil, or_false] at present
      rcases present with rfl | rfl | rfl | rfl <;> simp <;> omega

theorem newline_notMem_utf8EncodeChar {c : Char} (other : c ≠ '\n') : newline ∉ String.utf8EncodeChar c := by
  intro present
  by_cases wide : 127 < c.toNat
  · have high := high_of_mem_utf8EncodeChar wide present
    revert high
    decide
  · have small : c.val.toNat ≤ 127 := Nat.not_lt.mp wide
    rw [String.utf8EncodeChar, if_pos small] at present
    have value : 10 = c.val.toNat % 256 := congrArg UInt8.toNat (List.mem_singleton.mp present)
    apply other
    apply Char.toNat_inj.mp
    change c.val.toNat = 10
    omega

theorem count_encode (text : List Char) : (encode text).count newline = text.count '\n' := by
  induction text with
  | nil => rfl
  | cons c rest ih =>
    rw [encode_cons, List.count_append, ih, Nat.add_comm]
    by_cases same : c = '\n'
    · subst same
      simp only [List.count_cons_self, Nat.add_left_cancel_iff]
      decide
    · rw [List.count_eq_zero.mpr (newline_notMem_utf8EncodeChar same), List.count_cons_of_ne same]
      rfl

inductive Divided : List Char → List (List Char) → Prop where
  | none : Divided [] []
  | last {line : List Char} (any : line ≠ []) (absent : '\n' ∉ line) : Divided line [line]
  | next {line text : List Char} {lines : List (List Char)} (single : '\n' ∉ line) (rest : Divided text lines) :
    Divided (line ++ '\n' :: text) ((line ++ ['\n']) :: lines)

theorem lines_next {line : List Char} (single : '\n' ∉ line) (text : List Char) :
    lines (line ++ '\n' :: text) = (line ++ ['\n']) :: lines text := by
  induction line with
  | nil => simp [lines]
  | cons c rest ih =>
    have other : '\n' ≠ c := List.ne_of_not_mem_cons single
    have rest' : '\n' ∉ rest := List.not_mem_of_not_mem_cons single
    simp [lines, ih rest', other.symm]

theorem lines_last {line : List Char} (any : line ≠ []) (absent : '\n' ∉ line) : lines line = [line] := by
  induction line with
  | nil => exact absurd rfl any
  | cons c rest ih =>
    have other : '\n' ≠ c := List.ne_of_not_mem_cons absent
    have rest' : '\n' ∉ rest := List.not_mem_of_not_mem_cons absent
    cases rest with
    | nil => simp [lines, other.symm]
    | cons d more =>
      rw [lines, if_neg other.symm, ih (List.cons_ne_nil d more) rest']

theorem Divided.cons {c : Char} (other : c ≠ '\n') {text : List Char} (divided : Divided text (lines text)) :
    Divided (c :: text) (lines (c :: text)) := by
  rw [lines, if_neg other]
  generalize lines text = pieces at divided
  cases divided with
  | none => exact .last (List.cons_ne_nil c []) (by simpa using other.symm)
  | last any absent => exact .last (List.cons_ne_nil c _) (List.not_mem_cons_of_ne_of_not_mem other.symm absent)
  | @next line rest lines single after =>
    exact @Divided.next (c :: line) rest lines (List.not_mem_cons_of_ne_of_not_mem other.symm single) after

theorem lines_divided (text : List Char) : Divided text (lines text) := by
  induction text with
  | nil => exact .none
  | cons c rest ih =>
    by_cases same : c = '\n'
    · subst same
      simpa [lines] using @Divided.next [] rest (lines rest) List.not_mem_nil ih
    · exact ih.cons same

theorem Divided.eq_lines {text : List Char} {pieces : List (List Char)} (divided : Divided text pieces) :
    pieces = lines text := by
  induction divided with
  | none => rfl
  | last any absent => exact (lines_last any absent).symm
  | next single _ ih => rw [lines_next single, ih]

theorem Divided.around {text line : List Char} {earlier later : List (List Char)}
    (divided : Divided text (earlier ++ line :: later)) : text = earlier.flatten ++ (line ++ later.flatten) := by
  rw [← flatten_lines text, ← divided.eq_lines, List.flatten_append, List.flatten_cons]

def Unbroken (line : List Char) : Prop := '\n' ∉ line ∨ ∃ front, '\n' ∉ front ∧ line = front ++ ['\n']

theorem Divided.newlines {text line : List Char} {earlier later : List (List Char)}
    (divided : Divided text (earlier ++ line :: later)) :
    earlier.flatten.count '\n' = earlier.length ∧ Unbroken line := by
  induction earlier generalizing text with
  | nil =>
    refine ⟨rfl, ?_⟩
    cases divided with
    | last any absent => exact .inl absent
    | next single rest => exact .inr ⟨_, single, rfl⟩
  | cons first more ih =>
    generalize whole : more ++ line :: later = rest at divided
    rw [List.cons_append, whole] at divided
    cases divided with
    | last any absent => simp at whole
    | next single after =>
      obtain ⟨counted, unbroken⟩ := ih (whole ▸ after)
      refine ⟨?_, unbroken⟩
      simp [List.count_eq_zero.mpr single, counted]

theorem count_take_line {line : List Char} (unbroken : Unbroken line) {column : Nat} (inside : column < byteLength line) :
    ((encode line).take column).count newline = 0 := by
  have none_in : ∀ text, '\n' ∉ text → ((encode text).take column).count newline = 0 := by
    intro text absent
    have whole : (encode text).count newline = 0 := by rw [count_encode, List.count_eq_zero.mpr absent]
    exact Nat.le_zero.mp (whole ▸ (List.take_sublist column (encode text)).count_le newline)
  rcases unbroken with absent | ⟨front, absent, rfl⟩
  · exact none_in line absent
  · -- The newline is a single byte, so the column is not behind what comes before it.
    have before : column ≤ (encode front).length := by
      rw [byteLength_append] at inside
      rw [length_encode]
      exact Nat.le_of_lt_succ inside
    rw [encode_append, List.take_append_of_le_length before]
    exact none_in front absent

section

variable {number offset : Nat} {pieces : List (List Char)} {line : Line}

theorem lineAmong_eq_none_iff : lineAmong number pieces offset = none ↔ byteLength pieces.flatten ≤ offset := by
  induction pieces generalizing number offset with
  | nil => simp [lineAmong, byteLength]
  | cons piece rest ih =>
    rw [List.flatten_cons, byteLength_append]
    unfold lineAmong
    split
    · simp
      omega
    · rw [ih]
      omega

theorem lineAmong_append (earlier later : List (List Char)) {text : List Char} {column : Nat}
    (inside : column < byteLength text) :
    lineAmong number (earlier ++ text :: later) (byteLength earlier.flatten + column) =
      some ⟨number + earlier.length, text, column⟩ := by
  induction earlier generalizing number with
  | nil => simp [lineAmong, byteLength, inside]
  | cons piece rest ih =>
    have beyond : ¬byteLength piece + byteLength rest.flatten + column < byteLength piece := by omega
    have left : byteLength piece + byteLength rest.flatten + column - byteLength piece =
        byteLength rest.flatten + column := by omega
    have next : number + 1 + rest.length = number + (rest.length + 1) := by omega
    rw [List.flatten_cons, byteLength_append, List.cons_append, lineAmong, if_neg beyond, left, ih, next, List.length_cons]

theorem exists_of_lineAmong (found : lineAmong number pieces offset = some line) :
    ∃ earlier later, pieces = earlier ++ line.text :: later ∧ line.number = number + earlier.length ∧
      line.column < byteLength line.text ∧ byteLength earlier.flatten + line.column = offset := by
  induction pieces generalizing number offset with
  | nil => cases found
  | cons piece rest ih =>
    unfold lineAmong at found
    split at found
    · rename_i inside
      cases found
      exact ⟨[], rest, rfl, rfl, inside, Nat.zero_add offset⟩
    · obtain ⟨earlier, later, rfl, numbered, inside, placed⟩ := ih found
      refine ⟨piece :: earlier, later, rfl, ?_, inside, ?_⟩
      · simp only [List.length_cons]
        omega
      · rw [List.flatten_cons, byteLength_append]
        omega

end

-- What it is for a line to hold the byte at an offset. The newlines before the byte number
-- the line, and the lines before it with the column lead to the byte.
structure Line.Holds (line : Line) (source : String) (offset : Nat) : Prop where
  counted : line.number = ((bytes source).take offset).count newline + 1
  inside : line.column < byteLength line.text
  placed : ∃ earlier later, Divided source.toList (earlier ++ line.text :: later) ∧
    line.number = earlier.length + 1 ∧ byteLength earlier.flatten + line.column = offset

variable {source : String} {offset : Nat}

theorem count_before {earlier later : List (List Char)} {text : List Char} {column : Nat}
    (divided : Divided source.toList (earlier ++ text :: later)) (inside : column < byteLength text) :
    ((bytes source).take (byteLength earlier.flatten + column)).count newline = earlier.length := by
  obtain ⟨counted, unbroken⟩ := divided.newlines
  have before : byteLength earlier.flatten = (encode earlier.flatten).length := (length_encode _).symm
  have short : column ≤ (encode text).length := by
    rw [length_encode]
    exact Nat.le_of_lt inside
  rw [bytes_eq_encode, divided.around, encode_append, encode_append, before, List.take_length_add_append,
    List.take_append_of_le_length short, List.count_append, count_encode, counted, count_take_line unbroken inside,
    Nat.add_zero]

theorem lineAt_eq_none_iff : lineAt source offset = none ↔ source.utf8ByteSize ≤ offset := by
  rw [lineAt, lineAmong_eq_none_iff, flatten_lines, byteLength_toList]

theorem lineAt_eq_some_iff {line : Line} : lineAt source offset = some line ↔ line.Holds source offset := by
  constructor
  · intro found
    obtain ⟨earlier, later, split, numbered, inside, rfl⟩ := exists_of_lineAmong found
    have divided : Divided source.toList (earlier ++ line.text :: later) := split ▸ lines_divided source.toList
    refine ⟨?_, inside, earlier, later, divided, ?_, rfl⟩
    · rw [count_before divided inside, numbered, Nat.add_comm]
    · rw [numbered, Nat.add_comm]
  · intro holds
    obtain ⟨earlier, later, divided, numbered, rfl⟩ := holds.placed
    rw [lineAt, ← divided.eq_lines, lineAmong_append earlier later holds.inside, Nat.add_comm, ← numbered]

-- A line is found for the offsets inside the source and for no others, and it is the one
-- line that holds the byte there, be that byte a newline or inside a character.
theorem lineAt_exact (source : String) (offset : Nat) :
    (lineAt source offset = none ↔ source.utf8ByteSize ≤ offset) ∧
      ∀ line, lineAt source offset = some line ↔ line.Holds source offset :=
  ⟨lineAt_eq_none_iff, fun _ => lineAt_eq_some_iff⟩

example : (List.range 6).map (lineAt "é\n\nb") =
    [some ⟨1, ['é', '\n'], 0⟩, some ⟨1, ['é', '\n'], 1⟩, some ⟨1, ['é', '\n'], 2⟩, some ⟨2, ['\n'], 0⟩,
      some ⟨3, ['b'], 0⟩, none] := by decide

end TypedTemplate.Source
