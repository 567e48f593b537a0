import TypedTemplate.Proofs.Ty.Assign
import TypedTemplate.Proofs.Ty.Decidable

namespace TypedTemplate.Ty

structure Common (a b type : Ty) : Prop where
  normal : Normal type
  definite : Definite type
  left : assignable type a
  right : assignable type b

def Above (a b type : Ty) : Prop := ∀ other, Common a b other → assignable other type

-- What the two types share lies in members of the first one that lie in the second as a whole.
def Covers (a b : Ty) : Prop :=
  ∀ type, Common a b type → type.isAlternative → ∃ member ∈ a.members, assignable member b ∧ assignable type member

def fitting (a b : Ty) : List Ty := a.members.filter fun member => assignable member b

inductive Meets (a b : Ty) : Ty → Prop where
  | left (fits : assignable a b) : Meets a b a
  | right (fits : assignable b a) : Meets a b b
  | fitting (some : fitting a b ≠ []) (differ : ¬assignable b a) : Meets a b (unionOf (fitting a b))
  | apart (none : fitting a b = []) (differ : ¬assignable b a) : Meets a b b

variable {a b : Ty}

theorem meet_meets (known : a ≠ unknown) (known' : b ≠ unknown) : Meets a b (a.meet b) := by
  have named : ¬a.isUnknown := fun same => known (isUnknown_iff.mp same)
  have named' : ¬b.isUnknown := fun same => known' (isUnknown_iff.mp same)
  unfold meet
  rw [if_neg named]
  split
  · rename_i fits
    exact .left (by simpa [named'] using fits)
  split
  · rename_i fits
    exact .right fits
  rename_i differ
  split
  · rename_i none
    exact .apart none differ
  · rename_i some
    exact .fitting some differ

theorem Common.member {type member : Ty} (common : Common a b type) (present : member ∈ type.members) :
    Common a b member ∧ member.isAlternative :=
  ⟨⟨common.normal.members_normal present, common.definite.members present,
    assignable_iff_members.mp common.left member present, assignable_iff_members.mp common.right member present⟩,
    common.normal.members_flat common.definite.ne_unknown present⟩

theorem Common.exists_member {type : Ty} (common : Common a b type) : ∃ member, Common a b member ∧ member.isAlternative := by
  obtain ⟨member, present⟩ := List.exists_mem_of_ne_nil _ common.normal.members_ne_nil
  exact ⟨member, common.member present⟩

theorem covers_of_assignable (normal : Normal a) (fits : assignable a b) : Covers a b := by
  intro type common flat
  obtain ⟨member, present, inside⟩ := (assignable_iff_mem flat normal).mp common.left
  exact ⟨member, present, assignable_iff_members.mp fits member present, inside⟩

theorem covers_of_apart (normal : Normal a)
    (apart : ∀ member ∈ a.members, assignable member b ∨ ∀ type, ¬Common member b type) : Covers a b := by
  intro type common flat
  obtain ⟨member, present, inside⟩ := (assignable_iff_mem flat normal).mp common.left
  rcases apart member present with fits | nothing
  · exact ⟨member, present, fits, inside⟩
  · exact absurd ⟨common.normal, common.definite, inside, common.right⟩ (nothing type)

section fitting

variable (normal : Normal a) (known : a ≠ unknown) (some : fitting a b ≠ [])
include normal known some

theorem mem_members_fitting {member : Ty} :
    member ∈ (unionOf (fitting a b)).members ↔ member ∈ a.members ∧ assignable member b := by
  have inside : fitting a b ⊆ a.members := List.filter_sublist.subset
  rw [mem_members_unionOf_part normal known inside some, fitting, List.mem_filter]

theorem fitting_assignable_left : assignable (unionOf (fitting a b)) a := by
  rw [assignable_iff_members]
  intro member kept
  have present := ((mem_members_fitting normal known some).mp kept).1
  rw [assignable_iff_mem (normal.members_flat known present) normal]
  exact ⟨member, present, assignable_self (normal.members_normal present)⟩

theorem fitting_assignable_right : assignable (unionOf (fitting a b)) b :=
  assignable_iff_members.mpr fun _ kept => ((mem_members_fitting normal known some).mp kept).2

theorem above_fitting_iff : Above a b (unionOf (fitting a b)) ↔ Covers a b := by
  have whole : Normal (unionOf (fitting a b)) :=
    normal_unionOf fun member kept => normal.members_normal (List.mem_of_mem_filter kept)
  constructor
  · intro above type common flat
    obtain ⟨member, kept, inside⟩ := (assignable_iff_mem flat whole).mp (above type common)
    obtain ⟨present, fits⟩ := (mem_members_fitting normal known some).mp kept
    exact ⟨member, present, fits, inside⟩
  · intro covers other common
    rw [assignable_iff_members]
    intro part present
    obtain ⟨common', flat⟩ := common.member present
    obtain ⟨member, listed, fits, inside⟩ := covers part common' flat
    exact (assignable_iff_mem flat whole).mpr ⟨member, (mem_members_fitting normal known some).mpr ⟨listed, fits⟩, inside⟩

end fitting

theorem fitting_of_assignable (normal : Normal a) (fits : assignable a b) : fitting a b ≠ [] := by
  obtain ⟨member, present⟩ := List.exists_mem_of_ne_nil _ normal.members_ne_nil
  exact List.ne_nil_of_mem (List.mem_filter.mpr ⟨present, assignable_iff_members.mp fits member present⟩)

-- Two types meet in one that fits the second. It fits the first as well unless the second does not
-- and no member of the first fits the second; and what fits both is lost in it only where some
-- members of the first fit the second and do not hold all that the two share, since no container
-- is cut down to what it shares with another.
theorem meet_bounds (normal : Normal a) (normal' : Normal b) (definite : Definite a) (definite' : Definite b) :
    assignable (a.meet b) b ∧
      (assignable (a.meet b) a ↔ assignable b a ∨ fitting a b ≠ []) ∧
      (Above a b (a.meet b) ↔ assignable b a ∨ fitting a b = [] ∨ Covers a b) := by
  have known := definite.ne_unknown
  have meets := meet_meets known definite'.ne_unknown
  generalize a.meet b = result at meets ⊢
  cases meets with
  | left fits =>
    refine ⟨fits, iff_of_true (assignable_self normal) (.inr (fitting_of_assignable normal fits)), ?_⟩
    exact iff_of_true (fun _ common => common.left) (.inr (.inr (covers_of_assignable normal fits)))
  | right fits =>
    exact ⟨assignable_self normal', iff_of_true fits (.inl fits), iff_of_true (fun _ common => common.right) (.inl fits)⟩
  | fitting some differ =>
    refine ⟨fitting_assignable_right normal known some, iff_of_true (fitting_assignable_left normal known some) (.inr some), ?_⟩
    rw [above_fitting_iff normal known some, or_iff_right differ, or_iff_right some]
  | apart none differ =>
    exact ⟨assignable_self normal', iff_of_false differ (not_or.mpr ⟨differ, not_not.mpr none⟩),
      iff_of_true (fun _ common => common.right) (.inr (.inl none))⟩

-- `list<int>|map<string, int>|null` and `float|list<int|string>|null` meet in `list<int>|null`.
theorem meet_bounds_lists :
    let a := union [null, list int, map string int]
    let b := union [null, float, list (union [int, string])]
    Normal a ∧ Normal b ∧ Definite a ∧ Definite b ∧ a.meet b = union [null, list int] ∧
      assignable (a.meet b) b ∧ assignable (a.meet b) a ∧ Above a b (a.meet b) := by
  intro a b
  have normal : Normal a := by decide
  have normal' : Normal b := by decide
  have definite : Definite a := by decide
  have definite' : Definite b := by decide
  have nothing : ∀ type, ¬Common (map string int) b type := by
    intro type common
    obtain ⟨member, ⟨_, _, left, right⟩, flat⟩ := common.exists_member
    cases member with
    | map => simp [b, leavesOf] at right
    | unknown | union => cases flat
    | _ => simp [isUnknown] at left
  have covers : Covers a b := covers_of_apart normal <| List.forall_mem_cons.mpr ⟨.inl (by decide),
    List.forall_mem_cons.mpr ⟨.inl (by decide), List.forall_mem_singleton.mpr (.inr nothing)⟩⟩
  obtain ⟨right, left, above⟩ := meet_bounds normal normal' definite definite'
  exact ⟨normal, normal', definite, definite', by decide, right, left.mpr (.inr (by decide)), above.mpr (.inr (.inr covers))⟩

-- `list<int|string>` and `list<int|float>` share `list<int>` but meet in the second of them, which
-- does not fit the first; with `int` beside each they meet in `int`, and lose `list<int>`.
theorem meet_not_greatest :
    let a := list (union [int, string])
    let b := list (union [int, float])
    (Normal a ∧ Normal b ∧ Definite a ∧ Definite b ∧ Common a b (list int) ∧ ¬assignable (a.meet b) a) ∧
      Normal (union [int, a]) ∧ Normal (union [int, b]) ∧ Definite (union [int, a]) ∧ Definite (union [int, b]) ∧
      Common (union [int, a]) (union [int, b]) (list int) ∧
      ¬assignable (list int) ((union [int, a]).meet (union [int, b])) := by
  intro a b
  exact ⟨⟨by decide, by decide, by decide, by decide, ⟨.list .int, .list .int, by decide, by decide⟩, by decide⟩,
    by decide, by decide, by decide, by decide, ⟨.list .int, .list .int, by decide, by decide⟩, by decide⟩

end TypedTemplate.Ty
