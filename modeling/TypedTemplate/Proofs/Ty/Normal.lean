import TypedTemplate.Proofs.Sorted
import TypedTemplate.Proofs.Ty.Order
import TypedTemplate.Ty

namespace TypedTemplate.Ty

open Sorted

def isAlternative : Ty → Bool
  | unknown | union _ => false
  | _ => true

-- Every union in the type, however deep, has two members at least, and none of them
-- is itself a union or unknown. Fields and members stand in order.
inductive Normal : Ty → Prop where
  | unknown : Normal unknown
  | null : Normal null
  | bool : Normal bool
  | int : Normal int
  | float : Normal float
  | string : Normal string
  | list {element : Ty} (parts : Normal element) : Normal (list element)
  | map {key value : Ty} (keys : Normal key) (values : Normal value) : Normal (map key value)
  | record {fields : List (String × Ty)} (sorted : IncreasingKeys fields)
      (parts : ∀ field ∈ fields, Normal field.2) : Normal (record fields)
  | union {members : List Ty} (several : 2 ≤ members.length) (sorted : Increasing members)
      (flat : ∀ member ∈ members, member.isAlternative) (parts : ∀ member ∈ members, Normal member) :
      Normal (union members)

theorem isUnknown_iff {type : Ty} : type.isUnknown ↔ type = unknown := by
  cases type <;> simp [isUnknown]

theorem isNull_iff {type : Ty} : type.isNull ↔ type = null := by
  cases type <;> simp [isNull]

theorem isNull_eq_false {type : Ty} : type.isNull = false ↔ type ≠ null := by
  cases type <;> simp [isNull]

theorem isNullable_iff {type : Ty} : type.isNullable ↔ null ∈ type.members := by
  simp [isNullable, isNull_iff]

theorem members_of_alternative {type : Ty} (alternative : type.isAlternative) : type.members = [type] := by
  cases type <;> first | rfl | cases alternative

theorem ne_unknown_of_alternative {type : Ty} (alternative : type.isAlternative) : type ≠ unknown := by
  intro same
  subst same
  cases alternative

namespace Normal

theorem union_or_single {type : Ty} (normal : Normal type) :
    (type = .union type.members ∧ 2 ≤ type.members.length) ∨ type.members = [type] := by
  cases normal with
  | union several => exact .inl ⟨rfl, several⟩
  | _ => exact .inr rfl

theorem members_normal {type member : Ty} (normal : Normal type) (present : member ∈ type.members) : Normal member := by
  rcases normal.union_or_single with ⟨shape, _⟩ | shape
  · rw [shape] at normal
    cases normal with
    | union _ _ _ parts => exact parts member present
  · rw [shape, List.mem_singleton] at present
    exact present ▸ normal

theorem members_flat {type member : Ty} (normal : Normal type) (known : type ≠ .unknown)
    (present : member ∈ type.members) : member.isAlternative := by
  cases normal with
  | unknown => exact absurd rfl known
  | union _ _ flat => exact flat member present
  | _ => rw [List.mem_singleton.mp present]; rfl

theorem members_increasing {type : Ty} (normal : Normal type) : Increasing type.members := by
  cases normal with
  | union _ sorted => exact sorted
  | _ => exact List.pairwise_singleton _ _

theorem members_ne_nil {type : Ty} (normal : Normal type) : type.members ≠ [] := by
  intro empty
  rcases normal.union_or_single with ⟨_, several⟩ | shape
  · simp [empty] at several
  · simp [empty] at shape

theorem eq_of_members {a b : Ty} (first : Normal a) (second : Normal b) (same : a.members = b.members) : a = b := by
  rcases first.union_or_single with ⟨shape, several⟩ | shape <;>
    rcases second.union_or_single with ⟨shape', several'⟩ | shape'
  · rw [shape, shape', same]
  · simp [same, shape'] at several
  · simp [← same, shape] at several'
  · simpa [shape, shape'] using same

theorem eq_of_mem_members {a b : Ty} (first : Normal a) (second : Normal b)
    (same : ∀ member, member ∈ a.members ↔ member ∈ b.members) : a = b :=
  first.eq_of_members second (first.members_increasing.eq_of_mem_iff second.members_increasing same)

theorem eq_of_forall_mem {type only : Ty} (normal : Normal type) (all : ∀ member ∈ type.members, member = only) :
    type = only := by
  rcases normal.union_or_single with ⟨_, several⟩ | shape
  · have distinct := normal.members_increasing.nodup
    match type.members, several, distinct, all with
    | first :: second :: rest, _, distinct, all =>
      rw [all first (by simp), all second (by simp)] at distinct
      exact absurd distinct (by simp)
  · exact all type (by simp [shape])

theorem exists_present {type : Ty} (normal : Normal type) (other : type ≠ .null) : ∃ member ∈ type.members, member ≠ .null := by
  by_contra none
  exact other (normal.eq_of_forall_mem (by simpa using none))

theorem ne_unknown_of_mem {type member : Ty} (normal : Normal type) (known : type ≠ .unknown)
    (present : member ∈ type.members) : member ≠ .unknown :=
  ne_unknown_of_alternative (normal.members_flat known present)

end Normal
end TypedTemplate.Ty
