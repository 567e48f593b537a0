import TypedTemplate.Proofs.Ty.Operation
import TypedTemplate.Proofs.Ty.Semilattice

namespace TypedTemplate.Ty

variable {rule : Ty → Ty → Prop} {a b result : Ty} {results : List Ty}

theorem Gathered.of_same (gathered : Gathered rule a results)
    (same : ∀ member, member ≠ null → (member ∈ b.members ↔ member ∈ a.members)) : Gathered rule b results where
  each member present differ := gathered.each member ((same member differ).mp present) differ
  found := gathered.found.trans (exists_congr fun member => and_congr_left fun both => (same member both.1).symm)

section join

variable (normal : Normal a) (normal' : Normal b) (known : a ≠ unknown) (known' : b ≠ unknown)
include normal normal' known known'

theorem join_ne_unknown : a.join b ≠ unknown :=
  unionOf_ne_unknown (normal_pair normal normal') (by simp [known.symm, known'.symm]) (List.cons_ne_nil _ _)

theorem join_ne_null (other : a ≠ null) : a.join b ≠ null := by
  intro same
  obtain ⟨member, present, differ⟩ := normal.exists_present other
  have inside := (mem_members_join normal normal' known known').mpr (.inl present)
  rw [same] at inside
  exact differ (List.mem_singleton.mp inside)

theorem Gathered.join {first second : List Ty} (gathered : Gathered rule a first) (gathered' : Gathered rule b second) :
    Gathered rule (a.join b) (first ++ second) := by
  have inside {member : Ty} := @mem_members_join a b normal normal' known known' member
  refine ⟨fun member present differ => ?_, fun {result} => ?_⟩
  · rcases inside.mp present with left | right
    · exact gathered.each member left differ
    · exact gathered'.each member right differ
  · simp only [List.mem_append, gathered.found, gathered'.found, inside, or_and_right, exists_or]

theorem gathered_join_iff (lawful : Lawful rule) (other : a ≠ null) (other' : b ≠ null) :
    (∃ results, Gathered rule (a.join b) results ∧ unionOf results = result) ↔
      ∃ first second, (∃ results, Gathered rule a results ∧ unionOf results = first) ∧
        (∃ results, Gathered rule b results ∧ unionOf results = second) ∧ first.join second = result := by
  have joined {first second : List Ty} (gathered : Gathered rule a first) (gathered' : Gathered rule b second) :
      (unionOf first).join (unionOf second) = unionOf (first ++ second) :=
    join_unionOf (gathered.normal lawful normal) (gathered'.normal lawful normal') (gathered.ne_nil normal other)
      (gathered'.ne_nil normal' other')
  constructor
  · rintro ⟨results, whole, rfl⟩
    have inside {member : Ty} := @mem_members_join a b normal normal' known known' member
    obtain ⟨first, gathered⟩ : ∃ first, Gathered rule a first :=
      Gathered.exists lawful fun member present => whole.each member (inside.mpr (.inl present))
    obtain ⟨second, gathered'⟩ : ∃ second, Gathered rule b second :=
      Gathered.exists lawful fun member present => whole.each member (inside.mpr (.inr present))
    refine ⟨_, _, ⟨first, gathered, rfl⟩, ⟨second, gathered', rfl⟩, (joined gathered gathered').trans ?_⟩
    exact (gathered.join normal normal' known known' gathered').unionOf_eq whole
  · rintro ⟨_, _, ⟨first, gathered, rfl⟩, ⟨second, gathered', rfl⟩, rfl⟩
    exact ⟨first ++ second, gathered.join normal normal' known known' gathered', (joined gathered gathered').symm⟩

end join

section nullable

variable (normal : Normal a) (known : a ≠ unknown)
include normal known

theorem nullable_of_isNullable (nullable : a.isNullable) : a.nullable = a := by
  refine (normal_nullable normal).eq_of_mem_members normal fun member => ?_
  rw [mem_members_nullable normal known]
  exact or_iff_left_of_imp fun same => same ▸ isNullable_iff.mp nullable

theorem index_nullable (key : IndexKey) (other : a ≠ null) : index key a.nullable = index key a := by
  by_cases nullable : a.isNullable
  · rw [nullable_of_isNullable normal known nullable]
  · have whole : a.nullable ≠ null := join_ne_null normal .null known nofun other
    rw [← index_removeNull (normal_nullable normal) whole, removeNull_of_nullable normal known (by simpa using nullable)]

theorem gathered_nullable_iff : Gathered rule a.nullable results ↔ Gathered rule a results := by
  have same (member : Ty) (differ : member ≠ null) : member ∈ a.nullable.members ↔ member ∈ a.members :=
    (mem_members_nullable normal known).trans (or_iff_left differ)
  exact ⟨fun gathered => gathered.of_same fun member differ => (same member differ).symm, fun gathered => gathered.of_same same⟩

end nullable

-- An access to a value of one type or another, and a loop over it, succeed where they do for both
-- types, and then find what they find there. That the value may be `null` makes no difference.
theorem access_distributes (normal : Normal a) (normal' : Normal b) (known : a ≠ unknown) (known' : b ≠ unknown)
    (other : a ≠ null) (other' : b ≠ null) (key : IndexKey) :
    (∀ result, index key (a.join b) = .ok result ↔
      ∃ first second, index key a = .ok first ∧ index key b = .ok second ∧ first.join second = result) ∧
    index key a.nullable = index key a ∧
    (∀ result, element (a.join b) = .ok result ↔
      ∃ first second, element a = .ok first ∧ element b = .ok second ∧ first.join second = result) ∧
    ∀ result, element a.nullable = .ok result ↔ element a = .ok result := by
  have whole := normal_join normal normal'
  have differ := join_ne_null normal normal' known known' other
  have may := normal_nullable normal
  have named : a.join b ≠ unknown := join_ne_unknown normal normal' known known'
  have named' : a.nullable ≠ unknown := join_ne_unknown normal .null known nofun
  have differ' : a.nullable ≠ null := join_ne_null normal .null known nofun other
  refine ⟨fun result => ?_, index_nullable normal known key other, fun result => ?_, fun result => ?_⟩
  · simp only [index_ok_iff_gathered whole differ, index_ok_iff_gathered normal other, index_ok_iff_gathered normal' other']
    exact gathered_join_iff normal normal' known known' (indexed_lawful key) other other'
  · simp only [element_ok_iff_gathered whole named differ, element_ok_iff_gathered normal known other,
      element_ok_iff_gathered normal' known' other']
    exact gathered_join_iff normal normal' known known' looped_lawful other other'
  · simp only [element_ok_iff_gathered may named' differ', element_ok_iff_gathered normal known other,
      gathered_nullable_iff normal known]

-- `list<int>|null` and `list<?>|map<int, float>`
theorem access_distributes_lists :
    let a := union [null, list int]
    let b := union [list unknown, map int float]
    Normal a ∧ Normal b ∧ index (.value int) a = .ok int ∧ index (.value int) b = .ok unknown ∧
      index (.value int) (a.join b) = .ok unknown ∧ index (.field "key") a.nullable = index (.field "key") a ∧
      element a = .ok int ∧ element a.nullable = .ok int ∧ ∀ result, element (a.join b) ≠ .ok result := by
  intro a b
  have normal : Normal a := by decide
  have normal' : Normal b := by decide
  have laws := access_distributes normal normal' nofun nofun nofun nofun
  have first : index (.value int) a = .ok int := rfl
  have second : index (.value int) b = .ok unknown := rfl
  have misfit (result : Ty) : element b ≠ .ok result := nofun
  refine ⟨normal, normal', first, second, ?_, (laws (.field "key")).2.1, rfl, ((laws (.value int)).2.2.2 int).mpr rfl, ?_⟩
  · exact ((laws (.value int)).1 unknown).mpr ⟨int, unknown, first, second, rfl⟩
  · intro result found
    obtain ⟨_, other, _, also, _⟩ := ((laws (.value int)).2.2.1 result).mp found
    exact misfit other also

end TypedTemplate.Ty
