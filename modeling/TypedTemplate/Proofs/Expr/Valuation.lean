import TypedTemplate.Proofs.Expr.Normal
import TypedTemplate.Session

namespace TypedTemplate

open Ty (Normal)

-- Whether each reference has a value that is not null, and how everything in a condition
-- that is no test for null turns out.
structure Valuation where
  nonNull : RefKey → Bool
  other : Expr → Bool

def Ty.admits (type : Ty) : Bool → Bool
  | true => !type.isNull
  | false => type.isUnknown || type.isNullable

namespace Formula

def holds (valuation : Valuation) : Formula → Bool
  | test nonNull _ key _ => valuation.nonNull key == nonNull
  | other condition => valuation.other condition
  | negation operand => !operand.holds valuation
  | both left right => left.holds valuation && right.holds valuation
  | either left right => left.holds valuation || right.holds valuation

-- The references tested on the way to the answer. The right side of a connective is
-- left out if the left side decides.
def reached (valuation : Valuation) : Formula → List (Expr × RefKey)
  | test _ reference key _ => [(reference, key)]
  | other _ => []
  | negation operand => operand.reached valuation
  | both left right => left.reached valuation ++ if left.holds valuation then right.reached valuation else []
  | either left right => left.reached valuation ++ if left.holds valuation then [] else right.reached valuation

end Formula

namespace Ty

theorem admits_true {type : Ty} : type.admits true ↔ type ≠ null := by
  rw [admits, Bool.not_eq_true', isNull_eq_false]

theorem admits_false {type : Ty} : type.admits false ↔ type = unknown ∨ type.isNullable := by
  rw [admits, Bool.or_eq_true, isUnknown_iff]

theorem join_null {a b : Ty} (first : Normal a) (second : Normal b) (same : a.join b = null) : a = null ∧ b = null := by
  by_cases absorbed : a = unknown ∨ b = unknown
  · rw [join_unknown absorbed] at same; cases same
  obtain ⟨known, known'⟩ := not_or.mp absorbed
  have only (member : Ty) (inside : member ∈ a.members ∨ member ∈ b.members) : member = null := by
    have present := (mem_members_join first second known known').mpr inside
    rw [same] at present
    exact List.mem_singleton.mp present
  exact ⟨first.eq_of_forall_mem fun member inside => only member (.inl inside),
    second.eq_of_forall_mem fun member inside => only member (.inr inside)⟩

theorem admits_join {a b : Ty} (first : Normal a) (second : Normal b) {nonNull : Bool}
    (admitted : a.admits nonNull ∨ b.admits nonNull) : (a.join b).admits nonNull := by
  cases nonNull with
  | true =>
    simp only [admits_true] at admitted ⊢
    intro null
    obtain ⟨null', null''⟩ := join_null first second null
    exact admitted.elim (· null') (· null'')
  | false =>
    simp only [admits_false] at admitted ⊢
    by_cases absorbed : a = unknown ∨ b = unknown
    · exact .inl (join_unknown absorbed)
    · obtain ⟨known, known'⟩ := not_or.mp absorbed
      simp only [known, known', false_or] at admitted
      refine .inr (isNullable_iff.mpr ((mem_members_join first second known known').mpr ?_))
      exact admitted.imp isNullable_iff.mp isNullable_iff.mp

end Ty

namespace Constraints

def Admits (constraints : Constraints) (valuation : Valuation) : Prop :=
  constraints.Within fun key type => type.admits (valuation.nonNull key)

variable {a b : Constraints} {valuation : Valuation}

theorem Admits.mergeAll (sorted : Sorted.IncreasingKeys b) (narrower : b.Extends a) (first : a.Admits valuation)
    (second : b.Admits valuation) : (a.mergeAll b).Admits valuation := by
  intro key type found
  rw [lookup_mergeAll sorted] at found
  split at found
  · exact first key type found
  · rename_i other told
    split at found
    · rename_i known told'
      cases found
      rw [narrower key other known told told']
      exact second key other told
    · cases found
      exact second key _ told

theorem Admits.mergeCommon (normal : a.Within fun _ => Normal) (normal' : b.Within fun _ => Normal)
    (admitted : a.Admits valuation ∨ b.Admits valuation) : (a.mergeCommon b).Admits valuation := by
  intro key type found
  rw [lookup_mergeCommon] at found
  split at found
  · rename_i known other told told'
    cases found
    refine Ty.admits_join (normal key known told) (normal' key other told') ?_
    exact admitted.imp (fun first => first key known told) (fun second => second key other told')
  · cases found

end Constraints

namespace Formula

variable {context : Context} {scope : Scope} {valuation : Valuation}

theorem learn_admits {key : RefKey} {type : Ty} (normal : Normal type) (admitted : type.admits (valuation.nonNull key)) :
    (valuation.nonNull key = true → (learn key type).whenTrue.Admits valuation) ∧
      (valuation.nonNull key = false → (learn key type).whenFalse.Admits valuation) := by
  unfold learn
  split
  · refine ⟨fun present => .single ?_, fun absent => .single ?_⟩
    · rw [present, Ty.admits_true] at admitted
      rw [present, Ty.admits_true]
      exact Ty.removeNull_ne_null normal admitted
    · rw [absent]; rfl
  · exact ⟨fun _ => Refinements.Within.none.whenTrue, fun _ => Refinements.Within.none.whenFalse⟩

-- Induction on the condition. The right side of a connective counts only where the left
-- side did not decide, and there what the left side told is known to be right.
theorem evidence_admits {typeOf : Nat → Option Ty} (formula : Formula) (scope : Scope) (normal : scope.Normal)
    (recorded : formula.Recorded context typeOf scope)
    (admitted : ∀ tested ∈ formula.reached valuation, ∃ type, typeOf tested.1.id = some type ∧
      type.admits (valuation.nonNull tested.2)) :
    (formula.holds valuation = true → (formula.evidence context scope).whenTrue.Admits valuation) ∧
      (formula.holds valuation = false → (formula.evidence context scope).whenFalse.Admits valuation) := by
  induction formula generalizing scope with
  | test nonNull reference key denotes =>
    obtain ⟨type, found, admitted⟩ := admitted (reference, key) (by simp [reached])
    cases found.symm.trans recorded
    have told := learn_admits (Expr.reference_normal context normal reference denotes) admitted
    cases nonNull with
    | true => simpa [holds, evidence] using told
    | false => simpa [holds, evidence, Refinements.swap, and_comm] using told
  | other condition => exact ⟨fun _ => Refinements.Within.none.whenTrue, fun _ => Refinements.Within.none.whenFalse⟩
  | negation operand ih =>
    have told := ih scope normal recorded admitted
    simpa [holds, evidence, Refinements.swap, and_comm] using told
  | both left right first second =>
    have known := (Invariant.normal context).evidence_within left normal
    have sorted := left.evidence_sorted context scope
    have normal' := normal.under (known.whenTrue.entries sorted.whenTrue)
    have known' := (Invariant.normal context).evidence_within right normal'
    have told := first scope normal recorded.1 fun tested early => admitted tested (by simp [reached, early])
    have told' (held : left.holds valuation = true) := second _ normal' recorded.2 fun tested late =>
      admitted tested (by simp [reached, held, late])
    simp only [holds, evidence, Refinements.both, Bool.and_eq_true, Bool.and_eq_false_iff]
    constructor
    · intro decided
      obtain ⟨held, held'⟩ := decided
      exact .mergeAll (right.evidence_sorted context _).whenTrue (right.evidence_extends sorted.whenTrue known.whenTrue).1
        (told.1 held) ((told' held).1 held')
    · intro failed
      refine .mergeCommon known.whenFalse known'.whenFalse ?_
      cases held : left.holds valuation with
      | false => exact .inl (told.2 held)
      | true => exact .inr ((told' held).2 (by simpa [held] using failed))
  | either left right first second =>
    have known := (Invariant.normal context).evidence_within left normal
    have sorted := left.evidence_sorted context scope
    have normal' := normal.under (known.whenFalse.entries sorted.whenFalse)
    have known' := (Invariant.normal context).evidence_within right normal'
    have told := first scope normal recorded.1 fun tested early => admitted tested (by simp [reached, early])
    have told' (failed : left.holds valuation = false) := second _ normal' recorded.2 fun tested late =>
      admitted tested (by simp [reached, failed, late])
    simp only [holds, evidence, Refinements.either, Bool.or_eq_true, Bool.or_eq_false_iff]
    constructor
    · intro held
      refine .mergeCommon known.whenTrue known'.whenTrue ?_
      cases decided : left.holds valuation with
      | true => exact .inl (told.1 decided)
      | false => exact .inr ((told' decided).1 (by simpa [decided] using held))
    · intro decided
      obtain ⟨failed, failed'⟩ := decided
      exact .mergeAll (right.evidence_sorted context _).whenFalse
        (right.evidence_extends sorted.whenFalse known.whenFalse).2 (told.2 failed) ((told' failed).2 failed')

end Formula

-- Narrowing is right about `null`. Take any values under which each test that is reached
-- is made on a reference whose recorded type admits its value. Then what a condition
-- tells of references when it holds admits their values if it holds, and what it tells
-- when it fails admits them if it fails.
theorem Session.refine_admits (context : Context) (session : Session) (condition : Expr) (valuation : Valuation)
    (normal : session.scope.Normal) (distinct : condition.ids.Nodup)
    (admitted : ∀ tested ∈ (condition.formula context.version.isModern).reached valuation,
      ∃ type, (session.infer context condition).2.log.typeOf tested.1.id = some type ∧
        type.admits (valuation.nonNull tested.2)) :
    ((condition.formula context.version.isModern).holds valuation = true →
        ∀ entry ∈ ((session.infer context condition).2.refine context condition).whenTrue,
          entry.2.admits (valuation.nonNull entry.1)) ∧
      ((condition.formula context.version.isModern).holds valuation = false →
        ∀ entry ∈ ((session.infer context condition).2.refine context condition).whenFalse,
          entry.2.admits (valuation.nonNull entry.1)) := by
  have recorded := Expr.formula_recorded context condition session.scope (session.infer context condition).2.log.typeOf
    distinct fun id inside => Log.typeOf_append_right (Expr.mem_numbers_infer.mpr inside)
  obtain ⟨whenTrue, whenFalse⟩ := Formula.evidence_admits _ session.scope normal recorded admitted
  have sorted := Formula.evidence_sorted context (condition.formula context.version.isModern) session.scope
  rw [Session.refine, Expr.refine_of_recorded condition session.scope recorded]
  exact ⟨fun held => (whenTrue held).entries sorted.whenTrue, fun failed => (whenFalse failed).entries sorted.whenFalse⟩

def optionalPair : Ty := .nullable (.record [("first", .nullable .int)])

def pairScope : Scope := ⟨⟨[⟨"pair", .requiredParam, optionalPair⟩], []⟩, []⟩

-- `$pair != null and not ($pair.first == null)`
def firstPresent : Expr :=
  .binary (.numbered 7) .and
    (.binary (.numbered 2) .notEquals (.var (.numbered 0) "pair") (.null (.numbered 1)))
    (.unary (.numbered 8) .not
      (.binary (.numbered 6) .equals (.field (.numbered 4) (.var (.numbered 3) "pair") "first" false) (.null (.numbered 5))))

theorem optionalPair_normal : Normal optionalPair :=
  Ty.normal_nullable (.record (List.pairwise_singleton _ _) (by simpa using Ty.normal_nullable .int))

theorem pairScope_normal : pairScope.Normal := by
  intro frame present
  cases List.mem_singleton.mp present
  refine ⟨fun symbol listed => ?_, nofun⟩
  cases List.mem_singleton.mp listed
  exact optionalPair_normal

theorem refine_admits_firstPresent :
    pairScope.Normal ∧ firstPresent.ids.Nodup ∧
      ((Session.mk pairScope .empty).infer (.builtin .v2_4) firstPresent).2.refine (.builtin .v2_4) firstPresent =
        ⟨[(⟨"pair", []⟩, .record [("first", .nullable .int)]), (⟨"pair", ["first"]⟩, .int)], []⟩ ∧
      ∀ entry ∈ (((Session.mk pairScope .empty).infer (.builtin .v2_4) firstPresent).2.refine (.builtin .v2_4)
        firstPresent).whenTrue, entry.2.admits true :=
  ⟨pairScope_normal, by decide, rfl,
    (Session.refine_admits (.builtin .v2_4) ⟨pairScope, .empty⟩ firstPresent ⟨fun _ => true, fun _ => true⟩ pairScope_normal
      (by decide) (by decide)).1 rfl⟩

end TypedTemplate
