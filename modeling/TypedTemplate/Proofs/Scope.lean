import TypedTemplate.Proofs.Constraints
import TypedTemplate.Scope

namespace TypedTemplate

open Sorted

namespace Scope

def declares (scope : Scope) (name : String) : Prop := ∃ symbol, scope.lookup name = .ok symbol

def declaresHere (scope : Scope) (name : String) : Prop := ∃ symbol, scope.current.symbol? name = some symbol

theorem lookup_of_not_declares {scope : Scope} {name : String} (absent : ¬scope.declares name) :
    scope.lookup name = .error (.undefinedName name) := by
  unfold declares lookup at *
  split
  · rename_i found; rw [found] at absent; exact absurd ⟨_, rfl⟩ absent
  · rfl

variable {scope : Scope}

theorem not_declaresHere_enter (name : String) : ¬scope.enter.declaresHere name := by
  intro declared
  obtain ⟨symbol, found⟩ := declared
  cases found

theorem typeOf_narrow (asked key : RefKey) (type : Ty) :
    (scope.narrow key type).typeOf asked = if asked = key then some type else scope.typeOf asked := by
  simp only [typeOf, frames, narrow, typeIn, Frame.narrow, List.lookup_cons]
  by_cases same : asked = key
  · subst same; simp
  · rw [beq_eq_false_iff_ne.mpr same, if_neg same]; rfl

theorem typeOf_assume {constraints : Constraints} (sorted : IncreasingKeys constraints) (asked : RefKey) :
    (scope.assume constraints).typeOf asked = (constraints.lookup asked).or (scope.typeOf asked) := by
  unfold assume
  induction constraints generalizing scope with
  | nil => rfl
  | cons entry rest ih =>
    obtain ⟨key, type⟩ := entry
    obtain ⟨fresh, others⟩ := List.pairwise_cons.mp sorted
    rw [List.foldl_cons, ih others, typeOf_narrow, List.lookup_cons]
    by_cases same : asked = key
    · subst same
      have absent : rest.lookup asked = none := lookup_eq_none_of_notMem fun present => by
        have before := fresh asked present
        rw [Std.ReflOrd.compare_self] at before
        cases before
      simp [absent]
    · rw [beq_eq_false_iff_ne.mpr same, if_neg same]

theorem lookup_assume (constraints : Constraints) (name : String) :
    (scope.assume constraints).lookup name = scope.lookup name := by
  unfold assume
  induction constraints generalizing scope with
  | nil => rfl
  | cons entry rest ih => exact ih

theorem declaresHere_assume (constraints : Constraints) (name : String) :
    (scope.assume constraints).declaresHere name ↔ scope.declaresHere name := by
  unfold assume
  induction constraints generalizing scope with
  | nil => rfl
  | cons entry rest ih => exact ih

theorem assume_outer (scope : Scope) (constraints : Constraints) : (scope.assume constraints).outer = scope.outer := by
  unfold assume
  induction constraints generalizing scope with
  | nil => rfl
  | cons entry rest ih => exact ih (scope.narrow entry.1 entry.2)

theorem typeOf_under {constraints : Constraints} (sorted : IncreasingKeys constraints) (asked : RefKey) :
    (scope.under constraints).typeOf asked = (constraints.lookup asked).or (scope.typeOf asked) :=
  typeOf_assume sorted asked

theorem lookup_under (constraints : Constraints) (name : String) :
    (scope.under constraints).lookup name = scope.lookup name := lookup_assume constraints name

theorem not_declaresHere_under (constraints : Constraints) (name : String) :
    ¬(scope.under constraints).declaresHere name := by
  rw [under, declaresHere_assume]
  exact not_declaresHere_enter name

section declare

variable {symbol : Symbol} {declared : Scope}

theorem declare_eq (fresh : ¬scope.declaresHere symbol.name) :
    scope.declare symbol = .ok { scope with current := scope.current.declare symbol } := by
  unfold declare
  split
  · rename_i found; exact absurd ⟨_, found⟩ fresh
  · rfl

theorem declare_error (taken : scope.declaresHere symbol.name) :
    scope.declare symbol = .error (.duplicateDeclaration symbol.name) := by
  obtain ⟨earlier, found⟩ := taken
  rw [declare, found]

theorem of_declare (opened : scope.declare symbol = .ok declared) :
    ¬scope.declaresHere symbol.name ∧ declared = { scope with current := scope.current.declare symbol } := by
  by_cases taken : scope.declaresHere symbol.name
  · rw [declare_error taken] at opened; cases opened
  · rw [declare_eq taken] at opened; cases opened; exact ⟨taken, rfl⟩

theorem symbol?_declare (frame : Frame) (name : String) :
    (frame.declare symbol).symbol? name = if name = symbol.name then some symbol else frame.symbol? name := by
  rw [Frame.symbol?, Frame.declare, List.find?_cons]
  by_cases same : name = symbol.name
  · simp [same]
  · rw [beq_eq_false_iff_ne.mpr (Ne.symm same), if_neg same]; rfl

theorem lookup_declare (opened : scope.declare symbol = .ok declared) (name : String) :
    declared.lookup name = if name = symbol.name then .ok symbol else scope.lookup name := by
  rw [(of_declare opened).2]
  simp only [lookup, frames, List.findSome?_cons, symbol?_declare]
  by_cases same : name = symbol.name
  · rw [if_pos same, if_pos same]
  · rw [if_neg same, if_neg same]

theorem declaresHere_declare (opened : scope.declare symbol = .ok declared) (name : String) :
    declared.declaresHere name ↔ name = symbol.name ∨ scope.declaresHere name := by
  rw [(of_declare opened).2]
  simp only [declaresHere, symbol?_declare]
  by_cases same : name = symbol.name <;> simp [same]

theorem typeOf_declared (scope : Scope) (symbol : Symbol) (key : RefKey) :
    ({ scope with current := scope.current.declare symbol } : Scope).typeOf key =
      if key.root = symbol.name then (if key.isBare then some symbol.effective else none) else scope.typeOf key := by
  simp only [typeOf, frames, typeIn, symbol?_declare]
  have kept : (scope.current.declare symbol).narrowed.lookup key =
      if key.root = symbol.name then none else scope.current.narrowed.lookup key := by
    simp only [Frame.declare]
    induction scope.current.narrowed with
    | nil => simp
    | cons entry rest ih =>
      obtain ⟨key', type⟩ := entry
      rw [List.filter_cons]
      by_cases hidden : key'.root = symbol.name
      · rw [if_neg (by simpa using hidden), ih, List.lookup_cons]
        by_cases root : key.root = symbol.name
        · simp [root]
        · have other : (key == key') = false := beq_eq_false_iff_ne.mpr fun same => root (same ▸ hidden)
          rw [other, if_neg root]
      · rw [if_pos (by simpa using hidden), List.lookup_cons, List.lookup_cons, ih]
        cases same : key == key' with
        | true => rw [eq_of_beq same]; simp [hidden]
        | false => rfl
  rw [kept]
  by_cases root : key.root = symbol.name
  · simp [root]
  · simp [root]

theorem typeOf_declare (opened : scope.declare symbol = .ok declared) (key : RefKey) :
    declared.typeOf key =
      if key.root = symbol.name then (if key.isBare then some symbol.effective else none) else scope.typeOf key := by
  rw [(of_declare opened).2, typeOf_declared]

end declare

end Scope
end TypedTemplate
