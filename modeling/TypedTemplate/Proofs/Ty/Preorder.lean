import TypedTemplate.Proofs.Ty.Assign
import TypedTemplate.Proofs.Ty.Decidable

namespace TypedTemplate.Ty

open Sorted

section leaves

variable {type source target : Ty}

-- Unions may lie in unions here, since the type need not be normal.
mutual
theorem leaf_flat : ∀ type : Ty, ∀ leaf ∈ type.leaves, leaf = unknown ∨ leaf.isAlternative
  | unknown => fun _ present => .inl (List.mem_singleton.mp present)
  | null | bool | int | float | string | list _ | map _ _ | record _ => fun _ present =>
    .inr (by rw [List.mem_singleton.mp present]; rfl)
  | union members => leaf_flat_of members

theorem leaf_flat_of : ∀ members : List Ty, ∀ leaf ∈ leavesOf members, leaf = unknown ∨ leaf.isAlternative
  | [] => List.forall_mem_nil _
  | member :: rest => fun leaf present =>
    (List.mem_append.mp present).elim (leaf_flat member leaf) (leaf_flat_of rest leaf)
end

theorem leaves_of_leaf {leaf : Ty} (present : leaf ∈ type.leaves) : leaf.leaves = [leaf] := by
  rcases leaf_flat type leaf present with same | alternative
  · rw [same]; rfl
  · exact leaves_of_alternative alternative

theorem Definite.leaf {leaf : Ty} (definite : Definite type) (present : leaf ∈ type.leaves) :
    Definite leaf ∧ leaf.isAlternative := by
  induction definite with
  | union _ ih =>
    rw [leaves, leavesOf_eq_flatMap, List.mem_flatMap] at present
    obtain ⟨member, listed, inside⟩ := present
    exact ih member listed inside
  | _ =>
    rw [List.mem_singleton.mp present]
    refine ⟨?_, rfl⟩
    constructor <;> assumption

theorem Definite.assignable_leaf {leaf : Ty} (definite : Definite type) (fits : assignable type target)
    (present : leaf ∈ type.leaves) : assignable leaf target := by
  induction definite with
  | union _ ih =>
    rw [leaves, leavesOf_eq_flatMap, List.mem_flatMap] at present
    obtain ⟨member, listed, inside⟩ := present
    exact ih member listed (assignable_iff_members.mp fits member listed) inside
  | _ => rwa [List.mem_singleton.mp present]

theorem assignable_iff_leaf (alternative : source.isAlternative) :
    assignable source target ↔ ∃ leaf ∈ target.leaves, assignable source leaf := by
  cases source with
  | unknown | union => cases alternative
  | _ =>
    simp only [assignable, List.any_eq_true]
    refine exists_congr fun leaf => and_congr_right fun present => ?_
    simp [leaves_of_leaf present]

end leaves

section shapes

variable {target : Ty} (flat : target.isAlternative)
include flat

def isSimple : Ty → Bool
  | null | bool | int | float | string => true
  | _ => false

theorem assignable_simple_iff {source : Ty} (simple : source.isSimple) : assignable source target ↔ target = source := by
  constructor
  · intro fits
    cases source with
    | null | bool | int | float | string =>
      cases target with
      | unknown | union => cases flat
      | _ => first | rfl | simp [isUnknown] at fits
    | _ => cases simple
  · intro same
    subst same
    cases target with
    | null | bool | int | float | string => rfl
    | _ => cases simple

theorem assignable_list_iff {element : Ty} :
    assignable (list element) target ↔ ∃ expected, target = list expected ∧ assignable element expected := by
  cases target with
  | unknown | union => cases flat
  | _ => simp

theorem assignable_map_iff {key value : Ty} : assignable (map key value) target ↔
    ∃ expectedKey expectedValue, target = map expectedKey expectedValue ∧
      assignable key expectedKey ∧ assignable value expectedValue := by
  cases target with
  | unknown | union => cases flat
  | _ => simp

theorem assignable_record_iff {fields : List (String × Ty)} : assignable (record fields) target ↔
    ∃ expected : List (String × Ty), target = record expected ∧ fields.length = expected.length ∧
      assignableFields fields expected := by
  cases target with
  | unknown | union => cases flat
  | _ => simp

end shapes

-- What fits by way of a known type does so by way of one alternative on each side.
theorem assignable_of_between {source middle target : Ty} (alternative : source.isAlternative) (definite : Definite middle)
    (first : assignable source middle) (second : assignable middle target)
    (step : ∀ {between wanted}, Definite between → between.isAlternative → wanted.isAlternative →
      assignable source between → assignable between wanted → assignable source wanted) : assignable source target := by
  obtain ⟨between, present, first⟩ := (assignable_iff_leaf alternative).mp first
  obtain ⟨known, flat⟩ := definite.leaf present
  obtain ⟨wanted, listed, second⟩ := (assignable_iff_leaf flat).mp (definite.assignable_leaf second present)
  refine (assignable_iff_leaf alternative).mpr ⟨wanted, listed, ?_⟩
  rcases leaf_flat target wanted listed with same | flat'
  · rw [same]
    exact assignable_unknown source alternative
  · exact step known flat flat' first second

mutual
theorem assignable_trans : ∀ {source middle target : Ty}, Definite middle → assignable source middle →
    assignable middle target → assignable source target
  | unknown, _, _ => fun _ _ _ => rfl
  | null, _, _ | bool, _, _ | int, _, _ | float, _, _ | string, _, _ => fun definite first second => by
    apply assignable_of_between rfl definite first second
    intro between wanted _ flat _ first second
    rwa [(assignable_simple_iff flat rfl).mp first] at second
  | list element, _, _ => fun definite first second => by
    apply assignable_of_between rfl definite first second
    intro between wanted known flat flat' first second
    obtain ⟨expected, rfl, fits⟩ := (assignable_list_iff flat).mp first
    obtain ⟨expected', rfl, fits'⟩ := (assignable_list_iff flat').mp second
    cases known with
    | list part => exact (assignable_list_iff rfl).mpr ⟨expected', rfl, assignable_trans part fits fits'⟩
  | map key value, _, _ => fun definite first second => by
    apply assignable_of_between rfl definite first second
    intro between wanted known flat flat' first second
    obtain ⟨_, _, rfl, keys, values⟩ := (assignable_map_iff flat).mp first
    obtain ⟨_, _, rfl, keys', values'⟩ := (assignable_map_iff flat').mp second
    cases known with
    | map known known' =>
      exact (assignable_map_iff rfl).mpr
        ⟨_, _, rfl, assignable_trans known keys keys', assignable_trans known' values values'⟩
  | record fields, _, _ => fun definite first second => by
    apply assignable_of_between rfl definite first second
    intro between wanted known flat flat' first second
    obtain ⟨_, rfl, length, parts⟩ := (assignable_record_iff flat).mp first
    obtain ⟨_, rfl, length', parts'⟩ := (assignable_record_iff flat').mp second
    cases known with
    | record known =>
      exact (assignable_record_iff rfl).mpr ⟨_, rfl, length.trans length', assignableFields_trans known parts parts'⟩
  | union members, _, _ => fun definite first second => assignableAll_trans definite first second

theorem assignableAll_trans : ∀ {members : List Ty} {middle target : Ty}, Definite middle →
    assignableAll members middle → assignable middle target → assignableAll members target
  | [], _, _ => fun _ _ _ => rfl
  | member :: rest, _, _ => fun definite first second => by
    rw [assignableAll, Bool.and_eq_true] at first ⊢
    exact ⟨assignable_trans definite first.1 second, assignableAll_trans definite first.2 second⟩

theorem assignableFields_trans : ∀ {fields middle target : List (String × Ty)}, (∀ field ∈ middle, Definite field.2) →
    assignableFields fields middle → assignableFields middle target → assignableFields fields target
  | [], _, _ => fun _ _ _ => rfl
  | (name, type) :: rest, middle, target => fun definite first second => by
    have others : assignableFields rest target := by
      rw [assignableFields, Bool.and_eq_true] at first
      exact assignableFields_trans definite first.2 second
    rw [assignableFields_iff] at first second others ⊢
    obtain ⟨between, named, fits⟩ := first _ List.mem_cons_self
    obtain ⟨wanted, named', fits'⟩ := second _ (mem_of_lookup named)
    have whole := assignable_trans (definite _ (mem_of_lookup named)) fits fits'
    exact List.forall_mem_cons.mpr ⟨⟨wanted, named', whole⟩, others⟩
end

-- Only the type between the other two has to be known throughout.
theorem assignable_preorder {a b c : Ty} :
    (Normal a → assignable a a) ∧ (Definite b → assignable a b → assignable b c → assignable a c) :=
  ⟨assignable_self, assignable_trans⟩

-- `[ids: list<int>]`, `[ids: list<int|string>|null]|null` and `[ids: map<string, int>|list<bool|int|string>|null]|bool|null`.
-- None fits the one before it, and by way of the unknown type one would.
theorem assignable_preorder_ids :
    let a := record [("ids", list int)]
    let b := union [null, record [("ids", union [null, list (union [int, string])])]]
    let c := union [null, bool, record [("ids", union [null, list (union [bool, int, string]), map string int])]]
    Normal c ∧ assignable c c ∧ Definite b ∧ assignable a b ∧ assignable b c ∧ assignable a c ∧
      ¬assignable b a ∧ ¬assignable c b ∧ ¬assignable c a ∧ assignable c unknown ∧ assignable unknown a := by
  intro a b c
  have first : assignable a b := by decide
  have second : assignable b c := by decide
  have known : Definite b := by decide
  have normal : Normal c := by decide
  refine ⟨normal, (assignable_preorder (b := c) (c := c)).1 normal, known, first, second, ?_, ?_⟩
  · exact assignable_preorder.2 known first second
  · decide

theorem unionOf_assignable_iff {types : List Ty} (normal : ∀ type ∈ types, Normal type) (known : unknown ∉ types)
    (some : types ≠ []) {target : Ty} : assignable (unionOf types) target ↔ ∀ type ∈ types, assignable type target := by
  rw [assignable_iff_members]
  constructor
  · intro fits type listed
    rw [assignable_iff_members]
    exact fun member inside => fits member ((mem_members_unionOf normal known some).mpr ⟨type, listed, inside⟩)
  · intro fits member present
    obtain ⟨type, listed, inside⟩ := (mem_members_unionOf normal known some).mp present
    exact assignable_iff_members.mp (fits type listed) member inside

theorem unionOf_supremum {types : List Ty} (normal : ∀ type ∈ types, Normal type) (known : unknown ∉ types)
    (some : types ≠ []) :
    Normal (unionOf types) ∧ (∀ type ∈ types, assignable type (unionOf types)) ∧
      ∀ target, assignable (unionOf types) target ↔ ∀ type ∈ types, assignable type target := by
  have whole := normal_unionOf normal
  have least {target : Ty} := @unionOf_assignable_iff types normal known some target
  exact ⟨whole, least.mp (assignable_self whole), fun _ => least⟩

-- `int|null`, `list<int>` and `null` in `list<float|int>|int|string|null`, and not all of them in `list<int>|null`
theorem unionOf_supremum_ids :
    let types := [union [null, int], list int, null]
    let target := union [null, int, string, list (union [int, float])]
    let narrow := union [null, list int]
    (∀ type ∈ types, Normal type) ∧ unknown ∉ types ∧ types ≠ [] ∧ unionOf types = union [null, int, list int] ∧
      (∀ type ∈ types, assignable type (unionOf types)) ∧ (∀ type ∈ types, assignable type target) ∧
      assignable (unionOf types) target ∧ ¬assignable (unionOf types) narrow := by
  intro types target narrow
  have normal : ∀ type ∈ types, Normal type := by decide
  have known : unknown ∉ types := by decide
  have some : types ≠ [] := List.cons_ne_nil _ _
  have each : ∀ type ∈ types, assignable type target := by decide
  obtain ⟨_, above, least⟩ := unionOf_supremum normal known some
  refine ⟨normal, known, some, by decide, above, each, (least target).mpr each, fun fits => ?_⟩
  exact absurd ((least narrow).mp fits (union [null, int]) List.mem_cons_self) (by decide)

end TypedTemplate.Ty
