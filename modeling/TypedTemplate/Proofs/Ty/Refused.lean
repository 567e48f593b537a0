import TypedTemplate.Expr.Infer

namespace TypedTemplate.Ty

def Refused {α : Type} (outcome : Except Fault α) (keyType : Ty) : Prop :=
  ∃ expected, outcome = .error (.invalidKeyType expected keyType.text)

def HasRecord (type : Ty) : Prop := type.leaves.any isRecord

-- How keys in brackets fare, by the type of the key. An unknown one is refused only where every
-- one is, and that is where there is a record.
inductive Bracketing {α : Type} (outcome : Ty → Except Fault α) (record : Prop) : Prop
  | takes {result : α} (unknown : outcome .unknown = .ok result)
    (other : ∀ keyType, (∃ result, outcome keyType = .ok result) ∨ Refused (outcome keyType) keyType)
  | refuses (inside : record) (each : ∀ keyType, Refused (outcome keyType) keyType)
  | fails {fault : Fault} (unknown : outcome .unknown = .error fault)
    (other : ∀ expected found, fault ≠ .invalidKeyType expected found)

theorem Bracketing.imp {α : Type} {outcome : Ty → Except Fault α} {record record' : Prop}
    (bracketing : Bracketing outcome record) (still : record → record') : Bracketing outcome record' := by
  cases bracketing with
  | takes unknown other => exact .takes unknown other
  | refuses inside each => exact .refuses (still inside) each
  | fails unknown other => exact .fails unknown other

theorem Bracketing.map {α β : Type} {outcome : Ty → Except Fault α} {record : Prop} (bracketing : Bracketing outcome record)
    (convert : α → β) : Bracketing (fun keyType => (outcome keyType).map convert) record := by
  cases bracketing with
  | @takes result unknown other =>
    have converted : (outcome .unknown).map convert = .ok (convert result) := by
      rw [unknown]
      rfl
    refine .takes converted fun keyType => ?_
    rcases other keyType with ⟨result, found⟩ | ⟨expected, refused⟩
    · exact .inl ⟨convert result, by rw [found]; rfl⟩
    · exact .inr ⟨expected, by rw [refused]; rfl⟩
  | refuses inside each =>
    refine .refuses inside fun keyType => ?_
    obtain ⟨expected, refused⟩ := each keyType
    exact ⟨expected, by rw [refused]; rfl⟩
  | fails unknown other => exact .fails (by rw [unknown]; rfl) other

theorem Bracketing.cons {first : Ty → Except Fault Ty} {rest : Ty → Except Fault (List Ty)} {record record' : Prop}
    (bracketing : Bracketing first record) (others : Bracketing rest record') :
    Bracketing (fun keyType => match first keyType with
      | .error fault => .error fault
      | .ok type => (rest keyType).map (type :: ·)) (record ∨ record') := by
  cases bracketing with
  | @takes result unknown other =>
    cases others with
    | @takes results unknown' other' =>
      have both : (rest .unknown).map (result :: ·) = .ok (result :: results) := by
        rw [unknown']
        rfl
      refine .takes (by rw [unknown]; exact both) fun keyType => ?_
      rcases other keyType with ⟨type, found⟩ | ⟨expected, refused⟩
      · rw [found]
        rcases other' keyType with ⟨types, found'⟩ | ⟨expected, refused⟩
        · exact .inl ⟨type :: types, by rw [found']; rfl⟩
        · exact .inr ⟨expected, by rw [refused]; rfl⟩
      · exact .inr ⟨expected, by rw [refused]⟩
    | refuses inside each =>
      refine .refuses (.inr inside) fun keyType => ?_
      rcases other keyType with ⟨type, found⟩ | ⟨expected, refused⟩
      · obtain ⟨expected, refused⟩ := each keyType
        exact ⟨expected, by rw [found, refused]; rfl⟩
      · exact ⟨expected, by rw [refused]⟩
    | fails unknown' other' => exact .fails (by rw [unknown, unknown']; rfl) other'
  | refuses inside each =>
    refine .refuses (.inl inside) fun keyType => ?_
    obtain ⟨expected, refused⟩ := each keyType
    exact ⟨expected, by rw [refused]⟩
  | fails unknown other => exact .fails (by rw [unknown]) other

theorem bracketing_of_assignable {outcome : Ty → Except Fault Ty} {expected result : Ty}
    (shape : ∀ keyType, outcome keyType =
      if assignable keyType expected then .ok result else .error (.invalidKeyType expected.text keyType.text)) :
    Bracketing outcome False := by
  have unknown : outcome .unknown = .ok result := (shape .unknown).trans (if_pos rfl)
  refine .takes unknown fun keyType => ?_
  rw [shape]
  split
  · exact .inl ⟨result, rfl⟩
  · exact .inr ⟨expected.text, rfl⟩

mutual
theorem index_bracketing : ∀ type : Ty, Bracketing (fun keyType => index (.value keyType) type) type.HasRecord
  | unknown => .takes rfl fun _ => .inl ⟨unknown, rfl⟩
  | null | bool | int | float | string => .fails rfl nofun
  | list _ => (bracketing_of_assignable fun _ => rfl).imp False.elim
  | map _ _ => (bracketing_of_assignable fun _ => rfl).imp False.elim
  | record _ => .refuses rfl fun _ => ⟨_, rfl⟩
  | union members => (indexMembers_bracketing members).map unionOf

theorem indexMembers_bracketing : ∀ members : List Ty,
    Bracketing (fun keyType => indexMembers (.value keyType) members) ((leavesOf members).any isRecord)
  | [] => .takes rfl fun _ => .inl ⟨[], rfl⟩
  | member :: rest => by
    simp only [indexMembers]
    have others := indexMembers_bracketing rest
    split
    · refine others.imp fun inside => ?_
      rw [leavesOf, List.any_append, inside, Bool.or_true]
    · refine ((index_bracketing member).cons others).imp fun inside => ?_
      rw [leavesOf, List.any_append, Bool.or_eq_true]
      exact inside
end

end TypedTemplate.Ty
