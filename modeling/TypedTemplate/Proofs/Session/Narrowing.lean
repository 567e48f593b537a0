import TypedTemplate.Proofs.Expr.Narrows
import TypedTemplate.Proofs.Expr.Valuation

namespace TypedTemplate

open Ty (Share)

theorem Ty.Closed.always (holds : Prop) : Ty.Closed fun _ => holds where
  removeNull given _ := given
  null given _ := given
  join given _ := given
  meet given _ := given

theorem Ty.members_share_subset {type : Ty} (normal : type.Normal) (nullable : type.isNullable) (share : Share) :
    (share.of type).members ⊆ type.members := by
  cases share with
  | whole => exact List.Subset.refl _
  | present => exact members_removeNull_subset normal
  | absent =>
    intro member present
    rw [List.mem_singleton.mp present]
    exact isNullable_iff.mp nullable

theorem Expr.refine_keys (typeOf : Nat → Option Ty) (modern : Bool) (condition : Expr) :
    (condition.refine typeOf modern).Within fun key _ => ∃ part ∈ condition.subterms, part.refKey? = some key :=
  refine_within_tests (fun _ => .always _) typeOf modern condition fun part inside =>
    refineNonNull_within (fun _ => .always _) fun _ _ denotes _ _ => ⟨part, inside, denotes⟩

namespace Scope

variable {scope : Scope} {key : RefKey} {type : Ty}

-- A reference that has a type in a scope is read as that type, or not at all, or it is
-- injected data.
theorem read_of_typeOf {whole : Ty} (found : scope.typeOf key = some type) (read : scope.read key = some whole) :
    whole = type ∨ whole = .unknown := by
  induction key using RefKey.steps with
  | bare name =>
    rw [read_bare, Expr.varType] at read
    split at read
    · cases read
      exact .inr rfl
    · split at read
      · cases read
      · rw [found] at read
        cases read
        exact .inl rfl
  | field outer name _ =>
    rcases read_field.mp read with narrowed | ⟨absent, _⟩
    · rw [found] at narrowed
      cases narrowed
      exact .inl rfl
    · rw [found] at absent
      cases absent

theorem Told.members_subset {told : Ty} (known : scope.Told key told) (normal : scope.Normal)
    (found : scope.typeOf key = some type) : told.members ⊆ type.members := by
  obtain ⟨whole, read, nullable, share, same⟩ := known
  rcases read_of_typeOf found read with equal | unknown
  · subst equal same
    exact Ty.members_share_subset (normal.typeOf found) nullable share
  · rw [unknown] at nullable
    cases nullable

theorem under_told_subset {constraints : Constraints} (normal : scope.Normal) (sorted : Sorted.IncreasingKeys constraints)
    (told : constraints.Within scope.Told) (found : scope.typeOf key = some type) :
    ∃ narrowed, (scope.under constraints).typeOf key = some narrowed ∧ narrowed.members ⊆ type.members := by
  rw [typeOf_under sorted]
  cases listed : constraints.lookup key with
  | some narrowed => exact ⟨narrowed, rfl, (told key narrowed listed).members_subset normal found⟩
  | none => exact ⟨type, found, List.Subset.refl _⟩

end Scope

-- Narrowing only narrows. What a condition tells is about references that stand in it, and
-- where it is pushed in a block of its own each reference that had a type keeps some of the
-- members of that type, and no others.
theorem Session.refine_narrows (context : Context) (session : Session) (condition : Expr)
    (normal : session.scope.Normal) (distinct : condition.ids.Nodup) :
    let checked := (session.infer context condition).2
    let known := checked.refine context condition
    ∀ constraints ∈ [known.whenTrue, known.whenFalse],
      (∀ entry ∈ constraints, ∃ part ∈ condition.subterms, part.refKey? = some entry.1) ∧
        ∀ key type, checked.scope.typeOf key = some type →
          ∃ narrowed, (checked.enter.assume constraints).scope.typeOf key = some narrowed ∧
            narrowed.members ⊆ type.members := by
  intro checked known
  have recorded := Expr.formula_recorded context condition session.scope checked.log.typeOf distinct
    fun id inside => Log.typeOf_append_right (Expr.mem_numbers_infer.mpr inside)
  have told : known.Within session.scope.Told := by
    show (condition.refine checked.log.typeOf context.version.isModern).Within session.scope.Told
    rw [Expr.refine_of_recorded condition session.scope recorded]
    exact (Invariant.narrows context normal).evidence_within _ session.scope.narrows_self
  have sorted : known.Sorted := Expr.refine_sorted checked.log.typeOf context.version.isModern condition
  have keys := Expr.refine_keys checked.log.typeOf context.version.isModern condition
  rw [List.forall_mem_cons, List.forall_mem_singleton]
  refine ⟨⟨?_, fun key type found => ?_⟩, ?_, fun key type found => ?_⟩
  · exact keys.whenTrue.entries sorted.whenTrue
  · exact Scope.under_told_subset normal sorted.whenTrue told.whenTrue found
  · exact keys.whenFalse.entries sorted.whenFalse
  · exact Scope.under_told_subset normal sorted.whenFalse told.whenFalse found

def halfKnownScope : Scope :=
  ⟨⟨[⟨"pair", .requiredParam, .nullable (.record [("first", .nullable (.unionOf [.int, .string]))])⟩],
    [(⟨"pair", ["first"]⟩, .nullable .int)]⟩, []⟩

-- `not ($pair == null or not isNonnull($pair.first))`
def firstGiven : Expr :=
  .unary (.numbered 8) .not (.binary (.numbered 7) .or
    (.binary (.numbered 2) .equals (.var (.numbered 0) "pair") (.null (.numbered 1)))
    (.unary (.numbered 6) .not
      (.call (.numbered 5) "isNonnull" [.field (.numbered 4) (.var (.numbered 3) "pair") "first" false])))

theorem halfKnownScope_normal : halfKnownScope.Normal := by
  have part : (Ty.unionOf [.int, .string]).Normal := Ty.normal_unionOf (Ty.normal_pair .int .string)
  have record : (Ty.record [("first", .nullable (.unionOf [.int, .string]))]).Normal :=
    .record (List.pairwise_singleton _ _) (by simpa using Ty.normal_nullable part)
  intro frame present
  cases List.mem_singleton.mp present
  refine ⟨fun symbol listed => ?_, fun entry listed => ?_⟩
  · cases List.mem_singleton.mp listed
    exact Ty.normal_nullable record
  · cases List.mem_singleton.mp listed
    exact Ty.normal_nullable .int

theorem refine_narrows_firstGiven :
    let checked := ((Session.mk halfKnownScope .empty).infer (.builtin .v2_2) firstGiven).2
    let told : Constraints :=
      [(⟨"pair", []⟩, .record [("first", .union [.null, .int, .string])]), (⟨"pair", ["first"]⟩, .int)]
    halfKnownScope.Normal ∧ firstGiven.ids.Nodup ∧ checked.refine (.builtin .v2_2) firstGiven = ⟨told, []⟩ ∧
      (∀ entry ∈ told, ∃ part ∈ firstGiven.subterms, part.refKey? = some entry.1) ∧
      ∃ narrowed, (checked.enter.assume told).scope.typeOf ⟨"pair", ["first"]⟩ = some narrowed ∧
        narrowed.members ⊆ [.null, .int] := by
  intro checked told
  obtain ⟨⟨keys, narrowed⟩, _⟩ := List.forall_mem_cons.mp
    (Session.refine_narrows (.builtin .v2_2) ⟨halfKnownScope, .empty⟩ firstGiven halfKnownScope_normal (by decide))
  exact ⟨halfKnownScope_normal, by decide, rfl, keys, narrowed ⟨"pair", ["first"]⟩ (.union [.null, .int]) rfl⟩

end TypedTemplate
