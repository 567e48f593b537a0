import TypedTemplate.Constraints
import TypedTemplate.Proofs.Sorted

namespace TypedTemplate

open Sorted

instance : Std.TransOrd RefKey :=
  inferInstanceAs (Std.TransCmp (compareLex (compareOn RefKey.root) (compareOn RefKey.path)))

namespace Constraints

variable {a b : Constraints}

theorem mergeAll_increasing (first : IncreasingKeys a) : IncreasingKeys (a.mergeAll b) := by
  unfold mergeAll
  refine List.foldlRecOn b _ first fun merged sorted entry _ => ?_
  exact insertEntry_increasing entry.1 _ sorted

theorem lookup_mergeAll (second : IncreasingKeys b) (key : RefKey) :
    (a.mergeAll b).lookup key = match b.lookup key with
      | none => a.lookup key
      | some type => some (match a.lookup key with
        | some known => known.meet type
        | none => type) := by
  unfold mergeAll
  suffices ∀ merged : Constraints, (b.foldl (fun merged entry => insertEntry entry.1 (match a.lookup entry.1 with
        | some known => known.meet entry.2
        | none => entry.2) merged) merged).lookup key = match b.lookup key with
      | none => merged.lookup key
      | some type => some (match a.lookup key with
        | some known => known.meet type
        | none => type) from this a
  induction b with
  | nil => exact fun _ => rfl
  | cons entry rest ih =>
    intro merged
    obtain ⟨fresh, others⟩ := List.pairwise_cons.mp second
    rw [List.foldl_cons, ih others, List.lookup_cons]
    cases same : key == entry.1 with
    | true =>
      rw [eq_of_beq same]
      have absent : rest.lookup entry.1 = none := lookup_eq_none_of_notMem fun present => by
        have before := fresh entry.1 present
        rw [Std.ReflOrd.compare_self] at before
        cases before
      simp [absent, lookup_insertEntry]
    | false =>
      cases rest.lookup key with
      | some type => rfl
      | none => simp [lookup_insertEntry, same]

theorem mergeCommon_increasing (first : IncreasingKeys a) : IncreasingKeys (a.mergeCommon b) := by
  refine Increasing.sublist first ?_
  unfold mergeCommon
  induction a with
  | nil => exact .slnil
  | cons entry rest ih =>
    obtain ⟨key, type⟩ := entry
    have others := ih (List.pairwise_cons.mp first).2
    cases found : b.lookup key with
    | none => simpa [List.filterMap_cons, found] using others.cons key
    | some other => simpa [List.filterMap_cons, found] using others.cons_cons key

theorem lookup_mergeCommon (key : RefKey) :
    (a.mergeCommon b).lookup key = match a.lookup key, b.lookup key with
      | some type, some other => some (type.join other)
      | _, _ => none := by
  unfold mergeCommon
  induction a with
  | nil => rfl
  | cons entry rest ih =>
    obtain ⟨key', type⟩ := entry
    rw [List.filterMap_cons, List.lookup_cons]
    cases same : key == key' with
    | true =>
      rw [← eq_of_beq same]
      cases found : b.lookup key with
      | none => simp only [found, Option.map_none, ih]; cases rest.lookup key <;> rfl
      | some other => simp [found]
    | false =>
      cases found : b.lookup key' with
      | none => simpa [found] using ih
      | some other => rw [← ih]; simp [found, List.lookup_cons, same]

end Constraints

structure Refinements.Sorted (known : Refinements) : Prop where
  whenTrue : IncreasingKeys known.whenTrue
  whenFalse : IncreasingKeys known.whenFalse

namespace Refinements.Sorted

variable {a b : Refinements}

theorem none : Refinements.none.Sorted := ⟨List.Pairwise.nil, List.Pairwise.nil⟩

theorem swap (sorted : a.Sorted) : a.swap.Sorted := ⟨sorted.whenFalse, sorted.whenTrue⟩

theorem both (first : a.Sorted) : (a.both b).Sorted :=
  ⟨Constraints.mergeAll_increasing first.whenTrue, Constraints.mergeCommon_increasing first.whenFalse⟩

theorem either (first : a.Sorted) : (a.either b).Sorted :=
  ⟨Constraints.mergeCommon_increasing first.whenTrue, Constraints.mergeAll_increasing first.whenFalse⟩

end Refinements.Sorted
end TypedTemplate
