import Mathlib.Data.String.Basic
import TypedTemplate.Source

namespace TypedTemplate.Source

def slice (source : String) (start stop : Nat) : String := String.Pos.Raw.extract source ⟨start⟩ ⟨stop⟩

-- An offset in front of a character or at the end, not one inside a character.
def Boundary (source : String) (offset : Nat) : Prop := String.Pos.Raw.IsValid source ⟨offset⟩

theorem byteLength_eq_utf8Len (text : List Char) : byteLength text = String.utf8Len text := by
  induction text with
  | nil => rfl
  | cons c rest ih => rw [byteLength, String.utf8Len_cons, ih, Nat.add_comm]

theorem byteLength_toList (source : String) : byteLength source.toList = source.utf8ByteSize := by
  rw [byteLength_eq_utf8Len, String.utf8Len_toList]

theorem byteLength_pos {text : List Char} (any : text ≠ []) : 0 < byteLength text := by
  obtain ⟨c, rest, rfl⟩ := List.exists_cons_of_ne_nil any
  exact Nat.lt_of_lt_of_le c.utf8Size_pos (Nat.le_add_right _ _)

theorem length_le_byteLength (text : List Char) : text.length ≤ byteLength text := by
  induction text with
  | nil => exact Nat.le_refl 0
  | cons c rest ih =>
    have wide := c.utf8Size_pos
    rw [List.length_cons, byteLength]
    omega

theorem byteLength_eq_length_iff (text : List Char) : byteLength text = text.length ↔ ∀ c ∈ text, c.utf8Size = 1 := by
  induction text with
  | nil => simp [byteLength]
  | cons c rest ih =>
    have wide := c.utf8Size_pos
    have others := length_le_byteLength rest
    rw [List.forall_mem_cons, List.length_cons, byteLength]
    constructor
    · intro same
      exact ⟨by omega, ih.mp (by omega)⟩
    · intro each
      have same := ih.mpr each.2
      omega

variable {source : String} {before piece after : List Char}

theorem slice_eq (whole : source.toList = before ++ (piece ++ after)) :
    slice source (byteLength before) (byteLength before + byteLength piece) = .ofList piece := by
  rw [← String.ofList_toList (s := source), whole, slice, byteLength_eq_utf8Len, byteLength_eq_utf8Len, ← List.append_assoc]
  exact String.extract_of_valid before piece after

theorem boundary_of_append (whole : source.toList = before ++ after) : Boundary source (byteLength before) := by
  refine String.Pos.Raw.isValid_iff_exists_append.mpr ⟨.ofList before, .ofList after, ?_, ?_⟩
  · rw [← String.ofList_append, ← whole, String.ofList_toList]
  · rw [String.rawEndPos_ofList, byteLength_eq_utf8Len]

theorem slice_all (source : String) : slice source 0 source.utf8ByteSize = source := by
  have whole := @slice_eq source [] source.toList [] (List.append_nil _).symm
  rwa [byteLength_toList, String.ofList_toList, byteLength, Nat.zero_add] at whole

theorem slice_end (source : String) : slice source source.utf8ByteSize source.utf8ByteSize = "" := by
  have last := @slice_eq source source.toList [] [] (List.append_nil _).symm
  rwa [byteLength_toList] at last

theorem boundary_zero (source : String) : Boundary source 0 := @boundary_of_append source [] _ rfl

theorem boundary_end (source : String) : Boundary source source.utf8ByteSize := by
  rw [← byteLength_toList]
  exact boundary_of_append (List.append_nil _).symm

theorem exists_of_boundary {offset : Nat} (boundary : Boundary source offset) :
    ∃ before after, source.toList = before ++ after ∧ offset = byteLength before := by
  obtain ⟨front, back, rfl, same⟩ := String.Pos.Raw.isValid_iff_exists_append.mp boundary
  refine ⟨front.toList, back.toList, String.toList_append, ?_⟩
  rw [byteLength_toList]
  exact congrArg String.Pos.Raw.byteIdx same

theorem le_of_boundary {offset : Nat} (boundary : Boundary source offset) : offset ≤ source.utf8ByteSize := by
  obtain ⟨before, after, whole, rfl⟩ := exists_of_boundary boundary
  rw [← byteLength_toList, whole, byteLength_append]
  exact Nat.le_add_right _ _

theorem prefix_of_byteLength_le {before' after' : List Char} (same : before ++ after = before' ++ after')
    (shorter : byteLength before ≤ byteLength before') : ∃ between, before' = before ++ between := by
  rcases List.append_eq_append_iff.mp same with ⟨between, split, -⟩ | ⟨between, rfl, -⟩
  · exact ⟨between, split⟩
  · cases between with
    | nil => exact ⟨[], by rw [List.append_nil, List.append_nil]⟩
    | cons c rest =>
      have wide := byteLength_pos (List.cons_ne_nil c rest)
      rw [byteLength_append] at shorter
      omega

theorem slice_append {start middle stop : Nat} (first : Boundary source start) (second : Boundary source middle)
    (third : Boundary source stop) (le : start ≤ middle) (le' : middle ≤ stop) :
    slice source start middle ++ slice source middle stop = slice source start stop := by
  obtain ⟨before, after, whole, rfl⟩ := exists_of_boundary first
  obtain ⟨upTo, from', whole', rfl⟩ := exists_of_boundary second
  obtain ⟨all, rest, whole'', rfl⟩ := exists_of_boundary third
  obtain ⟨between, rfl⟩ := prefix_of_byteLength_le (whole.symm.trans whole') le
  obtain ⟨between', rfl⟩ := prefix_of_byteLength_le (whole'.symm.trans whole'') le'
  have inner : source.toList = (before ++ between) ++ (between' ++ rest) := by rw [whole'', List.append_assoc _ between']
  have outer : source.toList = before ++ ((between ++ between') ++ rest) := by simp only [whole'', List.append_assoc]
  have front : source.toList = before ++ (between ++ (between' ++ rest)) := by rw [inner, List.append_assoc]
  have one := slice_eq front
  have two := slice_eq inner
  have both := slice_eq outer
  simp only [byteLength_append, ← Nat.add_assoc] at one two both ⊢
  rw [one, two, both, String.ofList_append]

end TypedTemplate.Source
