import TypedTemplate.Proofs.Ty.Nullable

namespace TypedTemplate.Ty

open Sorted

-- The second type is the first with some of its parts unknown. As members of a union
-- may become one that way, they are matched in both directions.
mutual
inductive Blurs : Ty → Ty → Prop where
  | unknown (type : Ty) : Blurs type unknown
  | known {a b : Ty} (forth back : Ty → Ty) (kept : ∀ member ∈ a.members, forth member ∈ b.members)
      (alike : ∀ member ∈ a.members, Alike member (forth member))
      (kept' : ∀ member ∈ b.members, back member ∈ a.members)
      (alike' : ∀ member ∈ b.members, Alike (back member) member) : Blurs a b

inductive Alike : Ty → Ty → Prop where
  | null : Alike null null
  | bool : Alike bool bool
  | int : Alike int int
  | float : Alike float float
  | string : Alike string string
  | list {element element' : Ty} (parts : Blurs element element') : Alike (list element) (list element')
  | map {key key' value value' : Ty} (keys : Blurs key key') (values : Blurs value value') :
      Alike (map key value) (map key' value')
  | record {fields fields' : List (String × Ty)} (parts : AlikeFields fields fields') :
      Alike (record fields) (record fields')

inductive AlikeFields : List (String × Ty) → List (String × Ty) → Prop where
  | nil : AlikeFields [] []
  | cons {name : String} {type type' : Ty} {rest rest' : List (String × Ty)} (first : Blurs type type')
      (others : AlikeFields rest rest') : AlikeFields ((name, type) :: rest) ((name, type') :: rest')
end

variable {a b c : Ty}

theorem Alike.alternative (alike : Alike a b) : a.isAlternative ∧ b.isAlternative := by
  cases alike <;> exact ⟨rfl, rfl⟩

theorem Alike.null_iff (alike : Alike a b) : a = .null ↔ b = .null := by
  cases alike <;> simp

theorem blurs_iff : Blurs a b ↔ b = unknown ∨
    (∀ member ∈ a.members, ∃ member' ∈ b.members, Alike member member') ∧
      ∀ member' ∈ b.members, ∃ member ∈ a.members, Alike member member' := by
  constructor
  · intro blurs
    cases blurs with
    | unknown => exact .inl rfl
    | known forth back kept alike kept' alike' =>
      exact .inr ⟨fun member present => ⟨forth member, kept member present, alike member present⟩,
        fun member present => ⟨back member, kept' member present, alike' member present⟩⟩
  · intro either
    obtain rfl | ⟨first, second⟩ := either
    · exact .unknown a
    · have witness : Nonempty Ty := ⟨unknown⟩
      choose! forth kept alike using first
      choose! back kept' alike' using second
      exact .known forth back kept alike kept' alike'

theorem Alike.blurs (alike : Alike a b) : Blurs a b := by
  obtain ⟨flat, flat'⟩ := alike.alternative
  rw [blurs_iff, members_of_alternative flat, members_of_alternative flat']
  right
  simpa using alike

section known

variable (blurs : Blurs a b) (known : b ≠ .unknown)
include blurs known

theorem Blurs.forth {member : Ty} (present : member ∈ a.members) : ∃ member' ∈ b.members, Alike member member' := by
  rcases blurs_iff.mp blurs with absorbed | ⟨first, _⟩
  · exact absurd absorbed known
  · exact first member present

theorem Blurs.back {member' : Ty} (present : member' ∈ b.members) : ∃ member ∈ a.members, Alike member member' := by
  rcases blurs_iff.mp blurs with absorbed | ⟨_, second⟩
  · exact absurd absorbed known
  · exact second member' present

theorem Blurs.known_left : a ≠ .unknown := by
  intro same
  subst same
  obtain ⟨member, _, alike⟩ := blurs.forth known (List.mem_singleton.mpr rfl)
  cases alike

theorem Blurs.isNullable_iff : a.isNullable ↔ b.isNullable := by
  rw [Ty.isNullable_iff, Ty.isNullable_iff]
  constructor
  · intro present
    obtain ⟨member, present', alike⟩ := blurs.forth known present
    rwa [alike.null_iff.mp rfl] at present'
  · intro present
    obtain ⟨member, present', alike⟩ := blurs.back known present
    rwa [alike.null_iff.mpr rfl] at present'

theorem Blurs.eq_iff {type : Ty} (single : type.members = [type])
    (rigid : ∀ {member member'}, Alike member member' → (member = type ↔ member' = type)) (normal : Normal a)
    (normal' : Normal b) : a = type ↔ b = type := by
  constructor
  · intro same
    apply normal'.eq_of_forall_mem
    intro member' present'
    obtain ⟨member, present, alike⟩ := blurs.back known present'
    rw [same, single] at present
    exact (rigid alike).mp (List.mem_singleton.mp present)
  · intro same
    apply normal.eq_of_forall_mem
    intro member present
    obtain ⟨member', present', alike⟩ := blurs.forth known present
    rw [same, single] at present'
    exact (rigid alike).mpr (List.mem_singleton.mp present')

theorem Blurs.null_iff (normal : Normal a) (normal' : Normal b) : a = .null ↔ b = .null :=
  blurs.eq_iff known rfl Alike.null_iff normal normal'

end known

theorem Blurs.ne_null (blurs : Blurs a b) (normal : Normal a) (normal' : Normal b) (other : a ≠ .null) : b ≠ .null := by
  intro same
  have known : b ≠ .unknown := by simp [same]
  exact other ((blurs.null_iff known normal normal').mpr same)

theorem Blurs.of_unknown (blurs : Blurs .unknown b) : b = .unknown := by
  by_contra known
  exact blurs.known_left known rfl

theorem Alike.fields_self {fields : List (String × Ty)} (parts : ∀ field ∈ fields, Blurs field.2 field.2) :
    AlikeFields fields fields := by
  induction fields with
  | nil => exact .nil
  | cons field rest ih =>
    exact .cons (parts field List.mem_cons_self) (ih fun other present => parts other (List.mem_cons_of_mem _ present))

theorem blurs_self {type : Ty} (normal : Normal type) : Blurs type type := by
  induction normal with
  | unknown => exact .unknown _
  | null => exact Alike.null.blurs
  | bool => exact Alike.bool.blurs
  | int => exact Alike.int.blurs
  | float => exact Alike.float.blurs
  | string => exact Alike.string.blurs
  | list _ ih => exact (Alike.list ih).blurs
  | map _ _ keys values => exact (Alike.map keys values).blurs
  | record _ _ ih => exact (Alike.record (Alike.fields_self ih)).blurs
  | @union listed _ _ flat _ ih =>
    have alike (member : Ty) (present : member ∈ listed) : Alike member member := by
      have alternative := flat member present
      have known := ne_unknown_of_alternative alternative
      have single : member ∈ member.members := by rw [members_of_alternative alternative]; exact List.mem_singleton.mpr rfl
      obtain ⟨member', present', alike⟩ := (ih member present).forth known single
      rw [members_of_alternative alternative, List.mem_singleton] at present'
      rwa [present'] at alike
    rw [blurs_iff]
    exact .inr ⟨fun member present => ⟨member, present, alike member present⟩,
      fun member present => ⟨member, present, alike member present⟩⟩

theorem unionOf_blurs {types types' : List Ty} (normal : ∀ type ∈ types, Normal type)
    (normal' : ∀ type ∈ types', Normal type) (forth : ∀ type ∈ types, ∃ type' ∈ types', Blurs type type')
    (back : ∀ type' ∈ types', ∃ type ∈ types, Blurs type type') : Blurs (unionOf types) (unionOf types') := by
  by_cases absorbed : unknown ∈ types'
  · rw [unionOf_unknown absorbed]
    exact .unknown _
  by_cases empty : types' = []
  · subst empty
    exact .unknown _
  have known (type' : Ty) (present : type' ∈ types') : type' ≠ unknown := fun same => absorbed (same ▸ present)
  have absorbed' : unknown ∉ types := by
    intro present
    obtain ⟨type', present', blurs⟩ := forth unknown present
    exact known type' present' blurs.of_unknown
  have empty' : types ≠ [] := by
    obtain ⟨type', present'⟩ := List.exists_mem_of_ne_nil _ empty
    obtain ⟨type, present, _⟩ := back type' present'
    exact List.ne_nil_of_mem present
  rw [blurs_iff]
  right
  constructor
  · intro member present
    obtain ⟨type, listed, inside⟩ := (mem_members_unionOf normal absorbed' empty').mp present
    obtain ⟨type', listed', blurs⟩ := forth type listed
    obtain ⟨member', inside', alike⟩ := blurs.forth (known type' listed') inside
    exact ⟨member', (mem_members_unionOf normal' absorbed empty).mpr ⟨type', listed', inside'⟩, alike⟩
  · intro member' present'
    obtain ⟨type', listed', inside'⟩ := (mem_members_unionOf normal' absorbed empty).mp present'
    obtain ⟨type, listed, blurs⟩ := back type' listed'
    obtain ⟨member, inside, alike⟩ := blurs.back (known type' listed') inside'
    exact ⟨member, (mem_members_unionOf normal absorbed' empty').mpr ⟨type, listed, inside⟩, alike⟩

theorem unionOf_blurs_each {types types' : List Ty} (normal : ∀ type ∈ types, Normal type)
    (normal' : ∀ type ∈ types', Normal type) (each : List.Forall₂ Blurs types types') :
    Blurs (unionOf types) (unionOf types') := by
  apply unionOf_blurs normal normal'
  · clear normal normal'
    induction each with
    | nil => exact nofun
    | cons head _ ih =>
      simp only [List.forall_mem_cons, List.exists_mem_cons_iff]
      exact ⟨.inl head, fun type present => .inr (ih type present)⟩
  · clear normal normal'
    induction each with
    | nil => exact nofun
    | cons head _ ih =>
      simp only [List.forall_mem_cons, List.exists_mem_cons_iff]
      exact ⟨.inl head, fun type present => .inr (ih type present)⟩

theorem join_blurs {a' b' : Ty} (normal : Normal a) (normal' : Normal a') (second : Normal b) (second' : Normal b')
    (left : Blurs a a') (right : Blurs b b') : Blurs (a.join b) (a'.join b') := by
  apply unionOf_blurs (normal_pair normal second) (normal_pair normal' second')
  · simp [left, right]
  · simp [left, right]

theorem nullable_blurs (normal : Normal a) (normal' : Normal b) (blurs : Blurs a b) : Blurs a.nullable b.nullable :=
  join_blurs normal normal' .null .null blurs Alike.null.blurs

theorem removeNull_blurs (normal : Normal a) (normal' : Normal b) (blurs : Blurs a b) :
    Blurs a.removeNull b.removeNull := by
  by_cases known : b = unknown
  · subst known
    exact .unknown _
  have same := blurs.isNullable_iff known
  by_cases nullable : a.isNullable
  · by_cases other : a = null
    · rw [other, (blurs.null_iff known normal normal').mp other]
      exact blurs_self .null
    have other' : b ≠ null := mt (blurs.null_iff known normal normal').mpr other
    obtain ⟨_, _, inside⟩ := removeNull_nullable normal nullable other
    obtain ⟨_, _, inside'⟩ := removeNull_nullable normal' (same.mp nullable) other'
    rw [blurs_iff]
    right
    constructor
    · intro member kept
      obtain ⟨present, differ⟩ := (inside member).mp kept
      obtain ⟨member', present', alike⟩ := blurs.forth known present
      exact ⟨member', (inside' member').mpr ⟨present', mt alike.null_iff.mpr differ⟩, alike⟩
    · intro member' kept'
      obtain ⟨present', differ'⟩ := (inside' member').mp kept'
      obtain ⟨member, present, alike⟩ := blurs.back known present'
      exact ⟨member, (inside member).mpr ⟨present, mt alike.null_iff.mp differ'⟩, alike⟩
  · rw [removeNull_of_not_nullable normal (by simpa using nullable),
      removeNull_of_not_nullable normal' (by simpa using mt same.mpr nullable)]
    exact blurs

namespace AlikeFields

variable {fields fields' : List (String × Ty)} (alike : AlikeFields fields fields')
include alike

theorem length_eq : fields.length = fields'.length := by
  induction fields generalizing fields' with
  | nil => cases alike; rfl
  | cons field rest ih =>
    cases alike with
    | cons _ others => rw [List.length_cons, List.length_cons, ih others]

theorem back {field' : String × Ty} (present : field' ∈ fields') :
    ∃ type, (field'.1, type) ∈ fields ∧ Blurs type field'.2 := by
  induction fields generalizing fields' with
  | nil => cases alike; cases present
  | cons field rest ih =>
    cases alike with
    | cons first others =>
      rcases List.mem_cons.mp present with same | later
      · subst same
        exact ⟨_, List.mem_cons_self, first⟩
      · obtain ⟨type, present, blurs⟩ := ih others later
        exact ⟨type, List.mem_cons_of_mem _ present, blurs⟩

theorem lookup {name : String} {type : Ty} (found : fields.lookup name = some type) :
    ∃ type', fields'.lookup name = some type' ∧ Blurs type type' := by
  induction fields generalizing fields' with
  | nil => cases found
  | cons field rest ih =>
    cases alike with
    | @cons listed _ type' _ rest' first others =>
      rw [List.lookup_cons] at found ⊢
      cases same : name == listed with
      | true =>
        rw [same] at found
        cases found
        exact ⟨type', rfl, first⟩
      | false =>
        rw [same] at found
        exact ih others found

end AlikeFields

theorem alikeFields_insertEntry (name : String) {type type' : Ty} (blurs : Blurs type type')
    {fields fields' : List (String × Ty)} (alike : AlikeFields fields fields') :
    AlikeFields (insertEntry name type fields) (insertEntry name type' fields') := by
  induction fields generalizing fields' with
  | nil => cases alike; exact .cons blurs .nil
  | cons field rest ih =>
    cases alike with
    | @cons listed _ _ _ _ first others =>
      unfold insertEntry
      cases compare name listed with
      | lt => exact .cons blurs (.cons first others)
      | eq => exact .cons blurs others
      | gt => exact .cons first (ih others)

theorem alikeFields_entries {pairs pairs' : List (String × Ty)} (alike : AlikeFields pairs pairs') :
    AlikeFields (entries pairs) (entries pairs') := by
  suffices ∀ start start', AlikeFields start start' →
      AlikeFields (pairs.foldl (fun collected pair => insertEntry pair.1 pair.2 collected) start)
        (pairs'.foldl (fun collected pair => insertEntry pair.1 pair.2 collected) start') from this [] [] .nil
  induction pairs generalizing pairs' with
  | nil => cases alike; exact fun start start' same => same
  | cons pair rest ih =>
    cases alike with
    | cons first others => exact fun start start' same => ih others _ _ (alikeFields_insertEntry _ first same)

theorem alikeFields_zip (names : List String) {types types' : List Ty} (each : List.Forall₂ Blurs types types') :
    AlikeFields (names.zip types) (names.zip types') := by
  induction each generalizing names with
  | nil => rw [List.zip_nil_right]; exact .nil
  | cons head _ ih =>
    cases names with
    | nil => exact .nil
    | cons name names => exact .cons head (ih names)

-- What fits still fits when less is known. For a source that is no union it is enough to
-- look at each member of the target alone.
theorem assignable_of_alike {source source' target target' : Ty} (flat : source.isAlternative) (normal' : Normal source')
    (wanted : Normal target) (wanted' : Normal target') (blurs : Blurs source source') (blurs' : Blurs target target')
    (fits : assignable source target)
    (step : ∀ {member found found'}, Normal member → Normal found → Normal found' → Alike source member →
      Alike found found' → assignable source found → assignable member found') : assignable source' target' := by
  by_cases known : source' = unknown
  · subst known; rfl
  rw [assignable_iff_members]
  intro member present
  obtain ⟨other, single, alike⟩ := blurs.back known present
  rw [members_of_alternative flat, List.mem_singleton] at single
  subst single
  by_cases known' : target' = unknown
  · subst known'
    exact assignable_unknown member alike.alternative.2
  rw [assignable_iff_mem flat wanted] at fits
  rw [assignable_iff_mem alike.alternative.2 wanted']
  obtain ⟨found, listed, fits⟩ := fits
  obtain ⟨found', listed', alike'⟩ := blurs'.forth known' listed
  exact ⟨found', listed', step (normal'.members_normal present) (wanted.members_normal listed)
    (wanted'.members_normal listed') alike alike' fits⟩

theorem assignable_blurs {source source' target target' : Ty} (normal : Normal source) (normal' : Normal source')
    (wanted : Normal target) (wanted' : Normal target') (blurs : Blurs source source') (blurs' : Blurs target target')
    (fits : assignable source target) : assignable source' target' := by
  induction normal generalizing source' target target' with
  | unknown =>
    rw [blurs.of_unknown]
    rfl
  | null | bool | int | float | string =>
    apply assignable_of_alike rfl normal' wanted wanted' blurs blurs' fits
    intro member found found' _ _ _ alike alike' fits
    cases alike
    cases alike' <;> exact fits
  | list _ ih =>
    apply assignable_of_alike rfl normal' wanted wanted' blurs blurs' fits
    intro member found found' normal' wanted wanted' alike alike' fits
    cases alike with
    | list parts =>
      cases normal' with
      | list normal' =>
        cases alike' with
        | list parts' =>
          cases wanted with
          | list wanted =>
            cases wanted' with
            | list wanted' =>
              simp only [assignable, leaves, List.any_cons, List.any_nil, Bool.or_false] at fits ⊢
              exact ih normal' wanted wanted' parts parts' fits
        | _ => simp at fits
  | map _ _ keys values =>
    apply assignable_of_alike rfl normal' wanted wanted' blurs blurs' fits
    intro member found found' normal' wanted wanted' alike alike' fits
    cases alike with
    | map parts parts' =>
      cases normal' with
      | map keys' values' =>
        cases alike' with
        | map wider wider' =>
          cases wanted with
          | map wanted wantedValue =>
            cases wanted' with
            | map wanted' wantedValue' =>
              simp only [assignable, leaves, List.any_cons, List.any_nil, Bool.or_false, Bool.and_eq_true] at fits ⊢
              exact ⟨keys keys' wanted wanted' parts wider fits.1, values values' wantedValue wantedValue' parts' wider' fits.2⟩
        | _ => simp at fits
  | @record fields _ _ ih =>
    apply assignable_of_alike rfl normal' wanted wanted' blurs blurs' fits
    intro member found found' normal' wanted wanted' alike alike' fits
    cases alike with
    | @record _ fields' parts =>
      cases normal' with
      | record _ normal' =>
        cases alike' with
        | @record expected expected' wider =>
          cases wanted with
          | record _ wanted =>
            cases wanted' with
            | record _ wanted' =>
              simp only [assignable, leaves, List.any_cons, List.any_nil, Bool.or_false, Bool.and_eq_true, beq_iff_eq,
                assignableFields_iff] at fits ⊢
              obtain ⟨lengths, each⟩ := fits
              refine ⟨by rw [← parts.length_eq, ← wider.length_eq, lengths], fun field' present' => ?_⟩
              obtain ⟨type, present, blurs⟩ := parts.back present'
              obtain ⟨asked, listed, fits⟩ := each _ present
              obtain ⟨asked', listed', blurs'⟩ := wider.lookup listed
              exact ⟨asked', listed', ih _ present (normal' _ present') (wanted _ (mem_of_lookup listed))
                (wanted' _ (mem_of_lookup listed')) blurs blurs' fits⟩
        | _ => simp at fits
  | union _ _ _ _ ih =>
    by_cases known : source' = unknown
    · subst known; rfl
    rw [assignable_iff_members] at fits ⊢
    intro member' present'
    obtain ⟨member, present, alike⟩ := blurs.back known present'
    exact ih member present (normal'.members_normal present') wanted wanted' alike.blurs blurs' (fits member present)

end TypedTemplate.Ty
