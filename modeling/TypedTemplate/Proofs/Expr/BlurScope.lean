import TypedTemplate.Proofs.Expr.BlurRule
import TypedTemplate.Proofs.Expr.Narrows

namespace TypedTemplate

open Ty (Normal Share)

-- What can be read in the first scope by way of values that are not `null` can be read
-- in the second, where no more is known of it.
structure Scope.Blurs (scope scope' : Scope) : Prop where
  normal : scope.Normal
  normal' : scope'.Normal
  read : ∀ {key type}, scope.Solid key → scope.read key = some type →
    ∃ type', scope'.read key = some type' ∧ type.Blurs type'

-- The second constraints are the first, save that nothing is told of what has become unknown.
structure Constraints.Matches (known known' : Constraints) (scope' : Scope) : Prop where
  free : ∀ {key}, known.lookup key = none → known'.lookup key = none
  told : ∀ {key type}, known.lookup key = some type →
    (∃ type', known'.lookup key = some type' ∧ type.Blurs type') ∨
      known'.lookup key = none ∧ scope'.read key = some .unknown

namespace Scope

variable {a a' b b' : Scope}

theorem blurs_self (normal : a.Normal) : a.Blurs a :=
  ⟨normal, normal, fun _ found => ⟨_, found, Ty.blurs_self (a.read_normal normal found)⟩⟩

theorem Blurs.of_agrees (blurs : a.Blurs a') (agree : a.Agrees b) (agree' : a'.Agrees b') (normal : b.Normal)
    (normal' : b'.Normal) : b.Blurs b' := by
  refine ⟨normal, normal', ?_⟩
  intro key type solid found
  obtain ⟨type', found', types⟩ := blurs.read ((agree.solid_iff key).mpr solid) ((agree.read_iff key).mpr found)
  exact ⟨type', (agree'.read_iff key).mp found', types⟩

theorem Blurs.enter (blurs : a.Blurs a') : a.enter.Blurs a'.enter :=
  blurs.of_agrees (Agrees.refl a).enter_right (Agrees.refl a').enter_right blurs.normal.enter blurs.normal'.enter

end Scope

structure Constraints.Blurs (known known' : Constraints) (scope scope' : Scope) : Prop extends
    known.Matches known' scope' where
  sorted : Sorted.IncreasingKeys known
  sorted' : Sorted.IncreasingKeys known'
  within : known.Within scope.Told
  within' : known'.Within scope'.Told

namespace Scope

variable {scope scope' : Scope} {known known' : Constraints}

theorem read_field_under (normal : scope.Normal) (sorted : Sorted.IncreasingKeys known) (within : known.Within scope.Told)
    {key : RefKey} {name : String} (free : known.lookup (key.field name) = none) {base : Ty}
    (inner : (scope.under known).read key = some base) (other : base ≠ .null) {type : Ty} :
    (scope.under known).read (key.field name) = some type ↔ scope.read (key.field name) = some type := by
  obtain ⟨whole, outer, partOf⟩ := ((narrows_self scope).under sorted normal within).read inner
  have same := partOf.access (scope.read_normal normal outer) name other
  rw [read_field, read_field, typeOf_under_free sorted free, inner, outer]
  simp only [Option.some.injEq, exists_eq_left', same]

theorem solid_of_under (normal : scope.Normal) (sorted : Sorted.IncreasingKeys known) (within : known.Within scope.Told)
    {key : RefKey} (solid : (scope.under known).Solid key) : scope.Solid key := by
  induction key using RefKey.steps with
  | bare name => exact solid_bare name
  | field key name ih =>
    obtain ⟨inner, base, found, other⟩ := solid_field.mp solid
    obtain ⟨whole, outer, partOf⟩ := ((narrows_self scope).under sorted normal within).read found
    exact solid_field.mpr ⟨ih inner, whole, outer, partOf.whole_ne_null other⟩

theorem Told.normal (normal : scope.Normal) {key : RefKey} {type : Ty} (told : scope.Told key type) : type.Normal := by
  obtain ⟨whole, found, _, share, same⟩ := told
  rw [same]
  exact share.normal (scope.read_normal normal found)

theorem Blurs.under (blurs : scope.Blurs scope') (constraints : known.Blurs known' scope scope') :
    (scope.under known).Blurs (scope'.under known') := by
  obtain ⟨⟨free, told⟩, sorted, sorted', within, within'⟩ := constraints
  have normal : (scope.under known).Normal :=
    blurs.normal.under fun entry present => (within.entries sorted entry present).normal blurs.normal
  have normal' : (scope'.under known').Normal :=
    blurs.normal'.under fun entry present => (within'.entries sorted' entry present).normal blurs.normal'
  refine ⟨normal, normal', ?_⟩
  intro key type solid found
  induction key using RefKey.steps generalizing type with
  | bare name =>
    cases listed : known.lookup (.bare name) with
    | some tested =>
      cases found.symm.trans (read_told sorted listed (within _ _ listed))
      rcases told listed with ⟨type', listed', blurs'⟩ | ⟨listed', unknown⟩
      · exact ⟨type', read_told sorted' listed' (within' _ _ listed'), blurs'⟩
      · refine ⟨.unknown, ?_, .unknown _⟩
        rw [read_bare, varType_under_free sorted' listed', ← read_bare]
        exact unknown
    | none =>
      rw [read_bare, varType_under_free sorted listed, ← read_bare] at found
      obtain ⟨type', found', blurs'⟩ := blurs.read (solid_bare name) found
      refine ⟨type', ?_, blurs'⟩
      rw [read_bare, varType_under_free sorted' (free listed), ← read_bare]
      exact found'
  | field key name ih =>
    obtain ⟨inner, base, read, other⟩ := solid_field.mp solid
    obtain ⟨base', read', bases⟩ := ih inner read
    have other' := bases.ne_null (read_normal normal read) (read_normal normal' read') other
    have outer := solid_of_under blurs.normal sorted within solid
    cases listed : known.lookup (key.field name) with
    | some tested =>
      cases found.symm.trans (read_told sorted listed (within _ _ listed))
      rcases told listed with ⟨type', listed', blurs'⟩ | ⟨listed', unknown⟩
      · exact ⟨type', read_told sorted' listed' (within' _ _ listed'), blurs'⟩
      · exact ⟨.unknown, (read_field_under blurs.normal' sorted' within' listed' read' other').mpr unknown, .unknown _⟩
    | none =>
      rw [read_field_under blurs.normal sorted within listed read other] at found
      obtain ⟨type', found', blurs'⟩ := blurs.read outer found
      exact ⟨type', (read_field_under blurs.normal' sorted' within' (free listed) read' other').mpr found', blurs'⟩

theorem Blurs.assume (blurs : scope.Blurs scope') (constraints : known.Blurs known' scope scope') :
    (scope.assume known).Blurs (scope'.assume known') := by
  have normal := blurs.normal.assume fun entry present =>
    (constraints.within.entries constraints.sorted entry present).normal blurs.normal
  have normal' := blurs.normal'.assume fun entry present =>
    (constraints.within'.entries constraints.sorted' entry present).normal blurs.normal'
  exact (blurs.under constraints).of_agrees ((Agrees.refl scope).enter_left.assume known)
    ((Agrees.refl scope').enter_left.assume known') normal normal'

end Scope
end TypedTemplate
