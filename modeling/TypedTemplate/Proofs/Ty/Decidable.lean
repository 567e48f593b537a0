import TypedTemplate.Proofs.Ty.Kept

namespace TypedTemplate.Ty

open Sorted

mutual
def inside : Ty → List Ty
  | list element => list element :: element.inside
  | map key value => map key value :: (key.inside ++ value.inside)
  | record fields => record fields :: insideFields fields
  | union members => union members :: insideAll members
  | type => [type]

def insideFields : List (String × Ty) → List Ty
  | [] => []
  | (_, type) :: rest => type.inside ++ insideFields rest

def insideAll : List Ty → List Ty
  | [] => []
  | member :: rest => member.inside ++ insideAll rest
end

def Tidy : Ty → Prop
  | record fields => IncreasingKeys fields
  | union members => 2 ≤ members.length ∧ Increasing members ∧ ∀ member ∈ members, member.isAlternative
  | _ => True

mutual
theorem normal_iff : ∀ type : Ty, Normal type ↔ ∀ part ∈ type.inside, part.Tidy
  | unknown | null | bool | int | float | string =>
    iff_of_true (by constructor) fun part present => by rw [List.mem_singleton.mp present]; trivial
  | list element => by
    rw [inside, List.forall_mem_cons, ← normal_iff element, Kept.normals.list]
    exact (and_iff_right trivial).symm
  | map key value => by
    rw [inside, List.forall_mem_cons, List.forall_mem_append, ← normal_iff key, ← normal_iff value, Kept.normals.map]
    exact (and_iff_right trivial).symm
  | record fields => by
    rw [inside, List.forall_mem_cons, ← normal_iff_fields fields]
    constructor
    · intro normal
      cases normal with
      | record sorted parts => exact ⟨sorted, parts⟩
    · exact fun both => .record both.1 both.2
  | union members => by
    rw [inside, List.forall_mem_cons, ← normal_iff_all members]
    constructor
    · intro normal
      cases normal with
      | union several sorted flat parts => exact ⟨⟨several, sorted, flat⟩, parts⟩
    · exact fun both => .union both.1.1 both.1.2.1 both.1.2.2 both.2

theorem normal_iff_fields : ∀ fields : List (String × Ty),
    (∀ field ∈ fields, Normal field.2) ↔ ∀ part ∈ insideFields fields, part.Tidy
  | [] => iff_of_true (List.forall_mem_nil _) (List.forall_mem_nil _)
  | (_, type) :: rest => by
    rw [insideFields, List.forall_mem_append, List.forall_mem_cons, normal_iff type, normal_iff_fields rest]

theorem normal_iff_all : ∀ members : List Ty, (∀ member ∈ members, Normal member) ↔ ∀ part ∈ insideAll members, part.Tidy
  | [] => iff_of_true (List.forall_mem_nil _) (List.forall_mem_nil _)
  | member :: rest => by
    rw [insideAll, List.forall_mem_append, List.forall_mem_cons, normal_iff member, normal_iff_all rest]
end

mutual
theorem definite_iff : ∀ type : Ty, Definite type ↔ unknown ∉ type.inside
  | unknown => iff_of_false nofun fun absent => absurd (List.mem_singleton_self _) absent
  | null | bool | int | float | string => iff_of_true (by constructor) (by simp [inside])
  | list element => by
    rw [inside, List.mem_cons, not_or, ← definite_iff element, and_iff_right nofun]
    exact ⟨fun definite => by cases definite with | list part => exact part, .list⟩
  | map key value => by
    rw [inside, List.mem_cons, List.mem_append, not_or, not_or, ← definite_iff key, ← definite_iff value, and_iff_right nofun]
    exact ⟨fun definite => by cases definite with | map keys values => exact ⟨keys, values⟩, fun both => .map both.1 both.2⟩
  | record fields => by
    rw [inside, List.mem_cons, not_or, ← definite_iff_fields fields, and_iff_right nofun]
    exact ⟨fun definite => by cases definite with | record parts => exact parts, .record⟩
  | union members => by
    rw [inside, List.mem_cons, not_or, ← definite_iff_all members, and_iff_right nofun]
    exact ⟨fun definite => by cases definite with | union parts => exact parts, .union⟩

theorem definite_iff_fields : ∀ fields : List (String × Ty),
    (∀ field ∈ fields, Definite field.2) ↔ unknown ∉ insideFields fields
  | [] => iff_of_true (List.forall_mem_nil _) List.not_mem_nil
  | (_, type) :: rest => by
    rw [insideFields, List.mem_append, not_or, List.forall_mem_cons, definite_iff type, definite_iff_fields rest]

theorem definite_iff_all : ∀ members : List Ty, (∀ member ∈ members, Definite member) ↔ unknown ∉ insideAll members
  | [] => iff_of_true (List.forall_mem_nil _) List.not_mem_nil
  | member :: rest => by
    rw [insideAll, List.mem_append, not_or, List.forall_mem_cons, definite_iff member, definite_iff_all rest]
end

instance : DecidablePred Tidy
  | record _ => inferInstanceAs (Decidable (List.Pairwise _ _))
  | union _ => inferInstanceAs (Decidable (_ ∧ List.Pairwise _ _ ∧ _))
  | unknown | null | bool | int | float | string | list _ | map _ _ => instDecidableTrue

instance : DecidablePred Normal := fun type => decidable_of_iff _ (normal_iff type).symm

instance : DecidablePred Definite := fun type => decidable_of_iff _ (definite_iff type).symm

example : Normal (union [null, list (union [int, float]), record [("a", map string bool), ("b", unknown)]]) := by decide

end TypedTemplate.Ty
