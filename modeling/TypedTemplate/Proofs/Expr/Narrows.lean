import TypedTemplate.Proofs.Expr.Reading

namespace TypedTemplate

open Ty (Normal Share)

def Ty.PartOf (part whole : Ty) : Prop := part = whole ∨ whole.isNullable ∧ ∃ share : Share, part = share.of whole

namespace Ty.PartOf

variable {part whole : Ty} (partOf : part.PartOf whole)
include partOf

theorem whole_ne_null (other : part ≠ .null) : whole ≠ .null := by
  intro same
  subst same
  rcases partOf with equal | ⟨_, share, equal⟩
  · exact other equal
  · exact other (equal.trans share.of_null)

theorem whole_unknown (normal : whole.Normal) (unknown : part = .unknown) : whole = .unknown := by
  rcases partOf with equal | ⟨nullable, share, equal⟩
  · exact equal.symm.trans unknown
  · exact absurd (equal.symm.trans unknown) (share.ne_unknown normal nullable)

theorem access (normal : whole.Normal) (name : String) (other : part ≠ .null) :
    Expr.access part (.field name) false = Expr.access whole (.field name) false := by
  rcases partOf with equal | ⟨nullable, share, equal⟩
  · rw [equal]
  · subst equal
    simp only [Expr.access, Bool.false_and, Bool.false_eq_true, if_false, Ty.index_share normal nullable other]

end Ty.PartOf

namespace Scope

variable {scope outer : Scope} {constraints : Constraints}

def Told (outer : Scope) (key : RefKey) (type : Ty) : Prop :=
  ∃ whole, outer.read key = some whole ∧ whole.isNullable ∧ ∃ share : Share, type = share.of whole

theorem told_closed (normal : outer.Normal) (key : RefKey) : Ty.Closed (outer.Told key) where
  removeNull := by
    intro type told nullable
    obtain ⟨whole, found, nullable', share⟩ := told
    exact ⟨whole, found, nullable', (Ty.Closed.shares (outer.read_normal normal found) nullable').removeNull share nullable⟩
  null := by
    intro type told nullable
    obtain ⟨whole, found, nullable', share⟩ := told
    exact ⟨whole, found, nullable', (Ty.Closed.shares (outer.read_normal normal found) nullable').null share nullable⟩
  join := by
    intro a b told told'
    obtain ⟨whole, found, nullable', share⟩ := told
    obtain ⟨whole', found', _, share'⟩ := told'
    cases found.symm.trans found'
    exact ⟨whole, found, nullable', (Ty.Closed.shares (outer.read_normal normal found) nullable').join share share'⟩
  meet := by
    intro a b told told'
    obtain ⟨whole, found, nullable', share⟩ := told
    obtain ⟨whole', found', _, share'⟩ := told'
    cases found.symm.trans found'
    exact ⟨whole, found, nullable', (Ty.Closed.shares (outer.read_normal normal found) nullable').meet share share'⟩

structure Narrows (scope outer : Scope) : Prop where
  typeOf : ∀ {key}, scope.typeOf key = none → outer.typeOf key = none
  read : ∀ {key type}, scope.read key = some type → ∃ whole, outer.read key = some whole ∧ type.PartOf whole

theorem narrows_self (scope : Scope) : scope.Narrows scope :=
  ⟨fun absent => absent, fun found => ⟨_, found, .inl rfl⟩⟩

section under

variable (sorted : Sorted.IncreasingKeys constraints)
include sorted

theorem typeOf_under_told {key : RefKey} {type : Ty} (told : constraints.lookup key = some type) :
    (scope.under constraints).typeOf key = some type := by
  rw [typeOf_under sorted, told]
  rfl

theorem typeOf_under_free {key : RefKey} (free : constraints.lookup key = none) :
    (scope.under constraints).typeOf key = scope.typeOf key := by
  rw [typeOf_under sorted, free]
  rfl

theorem varType_under_free {name : String} (free : constraints.lookup (.bare name) = none) :
    Expr.varType (scope.under constraints) name = Expr.varType scope name := by
  rw [Expr.varType, Expr.varType, lookup_under, typeOf_under_free sorted free]

theorem read_under_told {key : RefKey} {told type : Ty} (listed : constraints.lookup key = some told)
    (found : (scope.under constraints).read key = some type) : type = told ∨ scope.read key = some type := by
  induction key using RefKey.steps with
  | bare name =>
    rw [read_bare, Expr.varType, lookup_under, typeOf_under_told sorted listed] at found
    split at found
    · rename_i injected
      rw [read_bare, Expr.varType, if_pos injected]
      exact .inr found
    split at found
    · cases found
    · cases found
      exact .inl rfl
  | field key name _ =>
    rw [read_field, typeOf_under_told sorted listed] at found
    rcases found with same | ⟨absent, _⟩
    · cases same
      exact .inl rfl
    · cases absent

theorem read_told {key : RefKey} {told : Ty} (listed : constraints.lookup key = some told)
    (known : scope.Told key told) : (scope.under constraints).read key = some told := by
  induction key using RefKey.steps with
  | bare name =>
    obtain ⟨whole, found, nullable, _⟩ := known
    rw [read_bare, Expr.varType] at found ⊢
    rw [lookup_under, typeOf_under_told sorted listed]
    split at found
    · cases found
      cases nullable
    · rename_i other
      rw [if_neg other]
      split at found
      · cases found
      · rfl
  | field key name _ =>
    rw [read_field, typeOf_under_told sorted listed]
    exact .inl rfl

theorem Narrows.under (narrows : scope.Narrows outer) (normal : outer.Normal) (within : constraints.Within outer.Told) :
    (scope.under constraints).Narrows outer where
  typeOf := by
    intro key absent
    rw [typeOf_under sorted, Option.or_eq_none_iff] at absent
    exact narrows.typeOf absent.2
  read := by
    intro key type found
    induction key using RefKey.steps generalizing type with
    | bare name =>
      cases listed : constraints.lookup (.bare name) with
      | some told =>
        rcases read_under_told sorted listed found with same | found
        · subst same
          obtain ⟨whole, found, nullable, share⟩ := within _ _ listed
          exact ⟨whole, found, .inr ⟨nullable, share⟩⟩
        · exact narrows.read found
      | none =>
        rw [read_bare, varType_under_free sorted listed, ← read_bare] at found
        exact narrows.read found
    | field key name ih =>
      cases listed : constraints.lookup (key.field name) with
      | some told =>
        rcases read_under_told sorted listed found with same | found
        · subst same
          obtain ⟨whole, found, nullable, share⟩ := within _ _ listed
          exact ⟨whole, found, .inr ⟨nullable, share⟩⟩
        · exact narrows.read found
      | none =>
        rw [read_field, typeOf_under_free sorted listed] at found
        rcases found with narrowed | ⟨absent, base, inner, accessed⟩
        · exact narrows.read (read_field.mpr (.inl narrowed))
        · obtain ⟨whole, found, partOf⟩ := ih inner
          have other : base ≠ .null := by
            intro same
            subst same
            cases accessed
          rw [partOf.access (outer.read_normal normal found) name other] at accessed
          exact ⟨type, read_field.mpr (.inr ⟨narrows.typeOf absent, whole, found, accessed⟩), .inl rfl⟩

end under
end Scope

-- Whatever a condition tells of a reference is a share of what the reference is read as.
theorem Invariant.narrows (context : Context) {outer : Scope} (normal : outer.Normal) :
    Invariant context outer.Told (·.Narrows outer) where
  closed := outer.told_closed normal
  under narrows sorted within := narrows.under sorted normal within
  read := by
    intro scope reference key narrows denotes nullable
    rcases Expr.read_or_unknown context reference denotes with found | unknown
    · obtain ⟨whole, found, partOf⟩ := narrows.read found
      rcases partOf with same | ⟨nullable', share⟩
      · exact ⟨whole, found, same ▸ nullable, .whole, same⟩
      · exact ⟨whole, found, nullable', share⟩
    · rw [unknown] at nullable
      cases nullable

end TypedTemplate
