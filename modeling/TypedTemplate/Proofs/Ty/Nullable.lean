import TypedTemplate.Proofs.Ty.Assign

namespace TypedTemplate.Ty

variable {type : Ty}

theorem ne_unknown_of_nullable (nullable : type.isNullable) : type ≠ unknown := by
  intro same
  subst same
  cases nullable

theorem removeNull_of_not_nullable (normal : Normal type) (present : type.isNullable = false) :
    type.removeNull = type := by
  cases normal with
  | @union listed several sorted flat parts =>
    have all : (listed.filter fun member => !member.isNull) = listed := by
      rw [List.filter_eq_self]
      intro member listed'
      simpa using List.any_eq_false.mp present member listed'
    rw [removeNull, all]
    exact unionOf_members (.union several sorted flat parts)
  | _ => rfl

theorem removeNull_nullable (normal : Normal type) (nullable : type.isNullable) (other : type ≠ null) :
    Normal type.removeNull ∧ type.removeNull ≠ unknown ∧
      ∀ member, member ∈ type.removeNull.members ↔ member ∈ type.members ∧ member ≠ null := by
  cases normal with
  | null => exact absurd rfl other
  | @union listed several sorted flat parts =>
    let rest := listed.filter fun member => !member.isNull
    have inside : ∀ member, member ∈ rest ↔ member ∈ listed ∧ member ≠ null := by
      intro member
      simp only [rest, List.mem_filter, Bool.not_eq_true', isNull_eq_false]
    have normal' : ∀ member ∈ rest, Normal member := fun member kept => parts member ((inside member).mp kept).1
    have known : unknown ∉ rest := fun kept => by cases flat _ ((inside unknown).mp kept).1
    have some : rest ≠ [] := by
      intro none
      refine other (Normal.eq_of_forall_mem (.union several sorted flat parts) fun member present => ?_)
      by_contra differ
      have kept := (inside member).mpr ⟨present, differ⟩
      rw [none] at kept
      cases kept
    refine ⟨normal_unionOf normal', unionOf_ne_unknown normal' known some, fun member => ?_⟩
    show member ∈ (unionOf rest).members ↔ member ∈ listed ∧ member ≠ null
    rw [← inside]
    exact mem_members_unionOf_part (.union several sorted flat parts) nofun List.filter_sublist.subset some
  | _ => cases nullable

theorem normal_removeNull (normal : Normal type) : Normal type.removeNull := by
  by_cases nullable : type.isNullable
  · by_cases other : type = null
    · subst other; exact .null
    · exact (removeNull_nullable normal nullable other).1
  · rw [removeNull_of_not_nullable normal (by simpa using nullable)]
    exact normal

theorem members_removeNull_subset (normal : Normal type) : type.removeNull.members ⊆ type.members := by
  by_cases nullable : type.isNullable
  · by_cases other : type = null
    · subst other; exact List.Subset.refl _
    · exact fun member present => (((removeNull_nullable normal nullable other).2.2 member).mp present).1
  · rw [removeNull_of_not_nullable normal (by simpa using nullable)]
    exact List.Subset.refl _

theorem Kept.removeNull {among : Ty → Prop} (kept : Kept among) (holds : among type) : among type.removeNull := by
  have normal := kept.normal holds
  exact kept.of_members (normal_removeNull normal) fun member present =>
    kept.member holds (members_removeNull_subset normal present)

theorem removeNull_not_nullable (normal : Normal type) (other : type ≠ null) : type.removeNull.isNullable = false := by
  by_cases nullable : type.isNullable
  · obtain ⟨_, _, inside⟩ := removeNull_nullable normal nullable other
    rw [Bool.eq_false_iff, ne_eq, isNullable_iff, inside]
    simp
  · rw [removeNull_of_not_nullable normal (by simpa using nullable)]
    simpa using nullable

theorem removeNull_ne_unknown (normal : Normal type) (known : type ≠ unknown) : type.removeNull ≠ unknown := by
  by_cases nullable : type.isNullable
  · by_cases other : type = null
    · subst other; simp [removeNull]
    · exact (removeNull_nullable normal nullable other).2.1
  · rw [removeNull_of_not_nullable normal (by simpa using nullable)]
    exact known

theorem removeNull_ne_null (normal : Normal type) (other : type ≠ null) : type.removeNull ≠ null := by
  intro same
  have absent := removeNull_not_nullable normal other
  rw [same] at absent
  cases absent

theorem isNullable_nullable (normal : Normal type) (known : type ≠ unknown) : type.nullable.isNullable :=
  isNullable_iff.mpr ((mem_members_nullable normal known).mpr (.inr rfl))

theorem removeNull_of_nullable (normal : Normal type) (known : type ≠ unknown) (present : type.isNullable = false) :
    type.nullable.removeNull = type := by
  have inside (member : Ty) : member ∈ type.nullable.members ↔ member ∈ type.members ∨ member = null :=
    mem_members_nullable normal known
  have absent : null ∉ type.members := fun nullable => by
    rw [isNullable_iff.mpr nullable] at present; cases present
  have other : type.nullable ≠ null := by
    intro same
    obtain ⟨member, first⟩ := List.exists_mem_of_ne_nil _ normal.members_ne_nil
    have listed := (inside member).mpr (.inl first)
    rw [same, show null.members = [null] from rfl, List.mem_singleton] at listed
    exact absent (listed ▸ first)
  obtain ⟨normal', _, rest⟩ := removeNull_nullable (normal_nullable normal) (isNullable_nullable normal known) other
  refine normal'.eq_of_mem_members normal fun member => ?_
  rw [rest, inside]
  constructor
  · intro either
    obtain ⟨first | same, differ⟩ := either
    · exact first
    · exact absurd same differ
  · exact fun first => ⟨.inl first, fun same => absent (same ▸ first)⟩

-- What may be left of a type where tests for null have been made.
inductive Share where
  | whole | present | absent

def Share.of : Share → Ty → Ty
  | .whole, type => type
  | .present, type => type.removeNull
  | .absent, _ => .null

theorem Share.of_null (share : Share) : share.of null = null := by cases share <;> rfl

theorem Share.normal (share : Share) (normal : Normal type) : Normal (share.of type) := by
  cases share with
  | whole => exact normal
  | present => exact normal_removeNull normal
  | absent => exact .null

section shares

variable (normal : Normal type) (nullable : type.isNullable)
include normal nullable

theorem removeNull_assignable (other : type ≠ null) : assignable type.removeNull type := by
  obtain ⟨_, known, inside⟩ := removeNull_nullable normal nullable other
  rw [assignable_iff_members]
  intro member kept
  have present := ((inside member).mp kept).1
  rw [assignable_iff_mem (normal.members_flat (ne_unknown_of_nullable nullable) present) normal]
  exact ⟨member, present, assignable_self (normal.members_normal present)⟩

theorem not_assignable_null_removeNull (other : type ≠ null) : ¬assignable null type.removeNull := by
  rw [assignable_null_iff (normal_removeNull normal), removeNull_not_nullable normal other]
  simp [removeNull_ne_unknown normal (ne_unknown_of_nullable nullable)]

theorem members_removeNull_apart (other : type ≠ null) : ∀ member ∈ type.removeNull.members, ¬assignable member null := by
  obtain ⟨normal', known, inside⟩ := removeNull_nullable normal nullable other
  intro member kept
  rw [assignable_to_null (normal'.members_flat known kept)]
  exact ((inside member).mp kept).2

theorem meet_share (share : Share) : meet type (share.of type) = share.of type := by
  by_cases other : type = null
  · subst other; rw [share.of_null]; rfl
  have known := ne_unknown_of_nullable nullable
  have misfit := not_assignable_null_removeNull normal nullable other
  cases share with
  | whole => exact meet_self normal
  | present =>
    refine meet_right known (removeNull_ne_unknown normal known) (removeNull_assignable normal nullable other) ?_
    exact fun fits => misfit (assignable_iff_members.mp fits null (isNullable_iff.mp nullable))
  | absent =>
    refine meet_right known (by simp [Share.of]) ((assignable_null_iff normal).mpr (.inr nullable)) fun fits => ?_
    obtain ⟨normal', _, inside⟩ := removeNull_nullable normal nullable other
    obtain ⟨member, kept⟩ := List.exists_mem_of_ne_nil _ normal'.members_ne_nil
    exact members_removeNull_apart normal nullable other member kept
      (assignable_iff_members.mp fits member ((inside member).mp kept).1)

theorem Share.ne_unknown (share : Share) : share.of type ≠ unknown := by
  have known := ne_unknown_of_nullable nullable
  cases share with
  | whole => exact known
  | present => exact removeNull_ne_unknown normal known
  | absent => simp [Share.of]

theorem mem_members_shares (other : type ≠ null) (member : Ty) :
    member ∈ type.members ↔ member ∈ type.removeNull.members ∨ member = null := by
  obtain ⟨_, _, inside⟩ := removeNull_nullable normal nullable other
  rw [inside]
  constructor
  · exact fun present => (em (member = null)).symm.imp (fun differ => ⟨present, differ⟩) id
  · intro either
    rcases either with ⟨present, _⟩ | same
    · exact present
    · rw [same]
      exact isNullable_iff.mp nullable

theorem join_shares (a b : Share) : ∃ share : Share, (a.of type).join (b.of type) = share.of type := by
  by_cases other : type = null
  · subst other; exact ⟨.whole, by simp only [Share.of_null]; rfl⟩
  have shares := mem_members_shares normal nullable other
  have members (share : Share) (member : Ty) (present : member ∈ (share.of type).members) : member ∈ type.members := by
    cases share with
    | whole => exact present
    | present => exact (shares member).mpr (.inl present)
    | absent => exact (shares member).mpr (.inr (List.mem_singleton.mp present))
  have mem_join (member : Ty) : member ∈ ((a.of type).join (b.of type)).members ↔
      member ∈ (a.of type).members ∨ member ∈ (b.of type).members :=
    mem_members_join (a.normal normal) (b.normal normal) (a.ne_unknown normal nullable) (b.ne_unknown normal nullable)
  have whole (all : ∀ member ∈ type.members, member ∈ (a.of type).members ∨ member ∈ (b.of type).members) :
      ∃ share : Share, (a.of type).join (b.of type) = share.of type := by
    refine ⟨.whole, (normal_join (a.normal normal) (b.normal normal)).eq_of_mem_members normal fun member => ?_⟩
    rw [mem_join]
    exact ⟨fun present => present.elim (members a member) (members b member), all member⟩
  cases a with
  | whole => exact whole fun member present => .inl present
  | present =>
    cases b with
    | whole => exact whole fun member present => .inr present
    | present => exact ⟨.present, join_self (normal_removeNull normal)⟩
    | absent => exact whole fun member present => ((shares member).mp present).imp id List.mem_singleton.mpr
  | absent =>
    cases b with
    | whole => exact whole fun member present => .inr present
    | present => exact whole fun member present => ((shares member).mp present).symm.imp List.mem_singleton.mpr id
    | absent => exact ⟨.absent, rfl⟩

theorem meet_shares (a b : Share) : ∃ share : Share, meet (a.of type) (b.of type) = share.of type := by
  by_cases other : type = null
  · subst other; exact ⟨.whole, by simp only [Share.of_null]; rfl⟩
  have known := ne_unknown_of_nullable nullable
  have normal' := normal_removeNull normal
  have known' := removeNull_ne_unknown normal known
  have misfit := not_assignable_null_removeNull normal nullable other
  have apart := members_removeNull_apart normal nullable other
  cases a with
  | whole => exact ⟨b, meet_share normal nullable b⟩
  | present =>
    cases b with
    | whole => exact ⟨.present, meet_left known' (removeNull_assignable normal nullable other)⟩
    | present => exact ⟨.present, meet_self normal'⟩
    | absent => exact ⟨.absent, meet_of_disjoint known' (by simp [Share.of]) misfit apart normal'.members_ne_nil⟩
  | absent =>
    cases b with
    | whole => exact ⟨.absent, meet_left (by simp [Share.of]) ((assignable_null_iff normal).mpr (.inr nullable))⟩
    | present =>
      refine ⟨.present, meet_of_disjoint (by simp [Share.of]) known' ?_ (by simpa [Share.of, Ty.members] using misfit)
        (by simp [Share.of, Ty.members])⟩
      intro fits
      obtain ⟨member, kept⟩ := List.exists_mem_of_ne_nil _ normal'.members_ne_nil
      exact apart member kept (assignable_iff_members.mp fits member kept)
    | absent => exact ⟨.absent, rfl⟩

end shares
end TypedTemplate.Ty
