import TypedTemplate.Proofs.Ty.Kept
import TypedTemplate.Ty.Assign

namespace TypedTemplate.Ty

open Sorted

attribute [simp] leaves assignable

theorem leaves_of_alternative {type : Ty} (alternative : type.isAlternative) : type.leaves = [type] := by
  cases type with
  | unknown | union => cases alternative
  | _ => rfl

theorem leaves_of_normal {type : Ty} (normal : Normal type) : type.leaves = type.members := by
  cases normal with
  | @union listed several sorted flat parts =>
    have single : ∀ member ∈ listed, member.leaves = [member] := fun member present =>
      leaves_of_alternative (flat member present)
    rw [leaves, leavesOf_eq_flatMap, members, List.flatMap_congr single, List.flatMap_singleton']
  | _ => rfl

theorem leaves_of_mem {type member : Ty} (normal : Normal type) (present : member ∈ type.members) :
    member.leaves = [member] := by
  rw [leaves_of_normal (normal.members_normal present)]
  by_cases known : type = unknown
  · subst known; rw [List.mem_singleton.mp present]; rfl
  · exact members_of_alternative (normal.members_flat known present)

theorem assignable_iff_members {source target : Ty} :
    assignable source target ↔ ∀ member ∈ source.members, assignable member target := by
  cases source with
  | union listed => rw [assignable, assignableAll_eq_all, List.all_eq_true]; rfl
  | _ => simp [members]

theorem assignable_iff_mem {source target : Ty} (alternative : source.isAlternative) (normal : Normal target) :
    assignable source target ↔ ∃ member ∈ target.members, assignable source member := by
  cases source with
  | unknown | union => cases alternative
  | _ =>
    simp only [assignable]
    rw [leaves_of_normal normal, List.any_eq_true]
    refine exists_congr fun member => and_congr_right fun present => ?_
    simp [leaves_of_mem normal present]

theorem assignable_unknown (source : Ty) (flat : source.isAlternative) : assignable source unknown := by
  cases source with
  | unknown | union => cases flat
  | _ => rfl

theorem assignableFields_iff {fields expected : List (String × Ty)} :
    assignableFields fields expected ↔
      ∀ field ∈ fields, ∃ wanted, expected.lookup field.1 = some wanted ∧ assignable field.2 wanted := by
  induction fields with
  | nil => simp [assignableFields]
  | cons field rest ih =>
    obtain ⟨name, type⟩ := field
    rw [assignableFields, Bool.and_eq_true, ih, List.forall_mem_cons]
    refine and_congr_left fun _ => ?_
    cases expected.lookup name <;> simp

theorem assignable_self {type : Ty} (normal : Normal type) : assignable type type := by
  induction normal with
  | unknown | null | bool | int | float | string => rfl
  | list _ ih => simpa using ih
  | map _ _ keys values => simp [keys, values]
  | @record fields sorted _ ih =>
    simp only [assignable, leaves, List.any_cons, List.any_nil, BEq.rfl, Bool.true_and, Bool.or_false]
    rw [assignableFields_iff]
    exact fun field present => ⟨field.2, sorted.lookup_of_mem present, ih field present⟩
  | @union listed several sorted flat parts ih =>
    rw [assignable_iff_members]
    intro member present
    rw [assignable_iff_mem (flat member present) (.union several sorted flat parts)]
    exact ⟨member, present, ih member present⟩

theorem assignable_null_iff {target : Ty} (normal : Normal target) :
    assignable null target ↔ target = unknown ∨ target.isNullable := by
  rw [assignable_iff_mem rfl normal]
  constructor
  · intro found
    obtain ⟨member, present, fits⟩ := found
    by_cases known : target = unknown
    · exact .inl known
    · have flat := normal.members_flat known present
      refine .inr (isNullable_iff.mpr ?_)
      cases member with
      | null => exact present
      | unknown | union => cases flat
      | _ => simp [isUnknown] at fits
  · intro either
    rcases either with same | nullable
    · subst same
      exact ⟨unknown, by simp [members], rfl⟩
    · exact ⟨null, isNullable_iff.mp nullable, rfl⟩

theorem assignable_to_null {source : Ty} (flat : source.isAlternative) : assignable source null ↔ source = null := by
  cases source with
  | unknown | union => cases flat
  | _ => simp [isUnknown]

theorem meet_left {a b : Ty} (known : a ≠ unknown) (fits : assignable a b) : meet a b = a := by
  have named : ¬a.isUnknown = true := fun same => known (isUnknown_iff.mp same)
  simp [meet, named, fits]

theorem meet_right {a b : Ty} (known : a ≠ unknown) (known' : b ≠ unknown) (fits : assignable b a)
    (differ : ¬assignable a b) : meet a b = b := by
  have named : ¬a.isUnknown = true := fun same => known (isUnknown_iff.mp same)
  have named' : ¬b.isUnknown = true := fun same => known' (isUnknown_iff.mp same)
  simp [meet, named, named', fits, differ]

theorem meet_of_disjoint {a b : Ty} (known : a ≠ unknown) (known' : b ≠ unknown) (differ : ¬assignable b a)
    (apart : ∀ member ∈ a.members, ¬assignable member b) (some : a.members ≠ []) : meet a b = b := by
  have named : ¬a.isUnknown = true := fun same => known (isUnknown_iff.mp same)
  have named' : ¬b.isUnknown = true := fun same => known' (isUnknown_iff.mp same)
  have misfit : ¬assignable a b := by
    rw [assignable_iff_members]
    intro fits
    obtain ⟨member, present⟩ := List.exists_mem_of_ne_nil _ some
    exact apart member present (fits member present)
  have nothing : (a.members.filter fun member => assignable member b) = [] := by
    rw [List.filter_eq_nil_iff]; exact apart
  simp [meet, named, named', misfit, differ, nothing]

theorem meet_self {type : Ty} (normal : Normal type) : meet type type = type := by
  by_cases known : type = unknown
  · subst known; rfl
  · exact meet_left known (assignable_self normal)

-- What remains of the first type is some of its members, or else the second one counts.
theorem Kept.meet {among : Ty → Prop} (kept : Kept among) {a b : Ty} (first : among a) (second : among b) :
    among (a.meet b) := by
  unfold Ty.meet
  split
  · exact second
  split
  · exact first
  split
  · exact second
  split
  · exact second
  · rename_i common some
    exact kept.unionOf some fun type present => kept.member first (List.mem_of_mem_filter present)

end TypedTemplate.Ty
