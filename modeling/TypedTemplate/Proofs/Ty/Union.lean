import TypedTemplate.Proofs.Ty.Normal

namespace TypedTemplate.Ty

open Sorted

section unionOf

variable {types : List Ty}

theorem unionOf_of_unknown_notMem (known : unknown ∉ types) :
    unionOf types = match Sorted.members (types.flatMap members) with
      | [] => unknown
      | [only] => only
      | several => union several := by
  have none : ¬types.any isUnknown = true := by
    rw [List.any_eq_true]
    intro absorbed
    obtain ⟨type, present, same⟩ := absorbed
    exact known (isUnknown_iff.mp same ▸ present)
  exact if_neg none

theorem unionOf_congr {types' : List Ty} (same : ∀ type, type ∈ types ↔ type ∈ types') :
    unionOf types = unionOf types' := by
  have absorbed : types.any isUnknown = types'.any isUnknown := by
    rw [Bool.eq_iff_iff, List.any_eq_true, List.any_eq_true]
    exact exists_congr fun type => and_congr_left fun _ => same type
  have alternatives : Sorted.members (types.flatMap members) = Sorted.members (types'.flatMap members) := by
    refine (members_increasing _).eq_of_mem_iff (members_increasing _) fun member => ?_
    rw [mem_members, mem_members, List.mem_flatMap, List.mem_flatMap]
    exact exists_congr fun type => and_congr_left fun _ => same type
  rw [unionOf, unionOf, absorbed, alternatives]

theorem unionOf_known (normal : ∀ type ∈ types, Normal type) (known : unknown ∉ types) (some : types ≠ []) :
    Normal (unionOf types) ∧ (unionOf types).members = Sorted.members (types.flatMap members) := by
  have parts : ∀ member ∈ Sorted.members (types.flatMap members), Normal member ∧ member.isAlternative := by
    intro member present
    obtain ⟨type, listed, inside⟩ := List.mem_flatMap.mp (mem_members.mp present)
    have other : type ≠ unknown := fun same => known (same ▸ listed)
    exact ⟨(normal type listed).members_normal inside, (normal type listed).members_flat other inside⟩
  have sorted := Sorted.members_increasing (types.flatMap members)
  rw [unionOf_of_unknown_notMem known]
  generalize all : Sorted.members (types.flatMap members) = found at parts sorted
  match found with
  | [] =>
    obtain ⟨type, listed⟩ := List.exists_mem_of_ne_nil _ some
    obtain ⟨member, inside⟩ := List.exists_mem_of_ne_nil _ (normal type listed).members_ne_nil
    have present := mem_members.mpr (List.mem_flatMap.mpr ⟨type, listed, inside⟩)
    rw [all] at present
    cases present
  | [only] => exact ⟨(parts only (by simp)).1, members_of_alternative (parts only (by simp)).2⟩
  | first :: second :: rest =>
    exact ⟨.union (by simp) sorted (fun member present => (parts member present).2)
      (fun member present => (parts member present).1), rfl⟩

theorem normal_unionOf (normal : ∀ type ∈ types, Normal type) : Normal (unionOf types) := by
  by_cases absorbed : unknown ∈ types
  · rw [unionOf_unknown absorbed]; exact .unknown
  · by_cases none : types = []
    · subst none; exact .unknown
    · exact (unionOf_known normal absorbed none).1

theorem mem_members_unionOf (normal : ∀ type ∈ types, Normal type) (known : unknown ∉ types) (some : types ≠ [])
    {member : Ty} : member ∈ (unionOf types).members ↔ ∃ type ∈ types, member ∈ type.members := by
  rw [(unionOf_known normal known some).2, mem_members, List.mem_flatMap]

theorem unionOf_ne_unknown (normal : ∀ type ∈ types, Normal type) (known : unknown ∉ types) (some : types ≠ []) :
    unionOf types ≠ unknown := by
  intro same
  have present : unknown ∈ (unionOf types).members := by simp [same, members]
  obtain ⟨type, listed, inside⟩ := (mem_members_unionOf normal known some).mp present
  exact (normal type listed).ne_unknown_of_mem (fun absorbed => known (absorbed ▸ listed)) inside rfl

theorem mem_members_unionOf_part {type : Ty} (normal : Normal type) (known : type ≠ unknown) {part : List Ty}
    (inside : part ⊆ type.members) (some : part ≠ []) {member : Ty} : member ∈ (unionOf part).members ↔ member ∈ part := by
  have parts : ∀ member ∈ part, Normal member := fun _ kept => normal.members_normal (inside kept)
  have flat : ∀ member ∈ part, member.isAlternative := fun _ kept => normal.members_flat known (inside kept)
  have absent : unknown ∉ part := fun kept => by cases flat _ kept
  rw [mem_members_unionOf parts absent some]
  constructor
  · intro found
    obtain ⟨other, kept, present⟩ := found
    rw [members_of_alternative (flat other kept), List.mem_singleton] at present
    exact present ▸ kept
  · exact fun kept => ⟨member, kept, by simp [members_of_alternative (flat member kept)]⟩

theorem unionOf_members {type : Ty} (normal : Normal type) : unionOf type.members = type := by
  by_cases known : type = unknown
  · subst known; rfl
  · refine (normal_unionOf fun _ => normal.members_normal).eq_of_mem_members normal fun member => ?_
    exact mem_members_unionOf_part normal known (List.Subset.refl _) normal.members_ne_nil

theorem unionOf_single {type : Ty} (normal : Normal type) : unionOf [type] = type := by
  by_cases known : type = unknown
  · subst known; rfl
  · refine (normal_unionOf (by simpa using normal)).eq_of_mem_members normal fun member => ?_
    rw [mem_members_unionOf (by simpa using normal) (by simpa using Ne.symm known) (by simp)]
    simp

end unionOf

section join

variable {a b : Ty}

theorem normal_pair (first : Normal a) (second : Normal b) : ∀ type ∈ [a, b], Normal type := by
  simp [first, second]

theorem normal_join (first : Normal a) (second : Normal b) : Normal (a.join b) :=
  normal_unionOf (normal_pair first second)

theorem join_comm (a b : Ty) : a.join b = b.join a := unionOf_congr fun type => by simp [or_comm]

theorem join_unknown (absorbed : a = unknown ∨ b = unknown) : a.join b = unknown :=
  unionOf_unknown (by simp only [List.mem_cons, List.not_mem_nil, or_false]; exact absorbed.imp Eq.symm Eq.symm)

theorem mem_members_join (first : Normal a) (second : Normal b) (known : a ≠ unknown) (known' : b ≠ unknown)
    {member : Ty} : member ∈ (a.join b).members ↔ member ∈ a.members ∨ member ∈ b.members := by
  rw [join, mem_members_unionOf (normal_pair first second) (by simp [known.symm, known'.symm]) (by simp)]
  simp

theorem join_self (normal : Normal a) : a.join a = a := by
  by_cases known : a = unknown
  · subst known; rfl
  · exact (normal_join normal normal).eq_of_mem_members normal fun member => by
      rw [mem_members_join normal normal known known, or_self]

theorem normal_nullable (normal : Normal a) : Normal a.nullable := normal_join normal .null

theorem mem_members_nullable (normal : Normal a) (known : a ≠ unknown) {member : Ty} :
    member ∈ a.nullable.members ↔ member ∈ a.members ∨ member = null := by
  rw [nullable, mem_members_join normal .null known (by simp)]
  simp [members]

end join
end TypedTemplate.Ty
