import TypedTemplate.Proofs.Expr.Agreement
import TypedTemplate.Proofs.Statement.Optional

namespace TypedTemplate

-- Statements declare names as well, and for that the innermost block counts.
structure Scope.Similar (a b : Scope) : Prop extends Scope.Agrees a b where
  declaresHere : ∀ name, a.declaresHere name ↔ b.declaresHere name

namespace Scope

variable {a b : Scope}

theorem Agrees.enter_similar (agree : a.Agrees b) : a.enter.Similar b.enter :=
  ⟨agree.enter, fun name => iff_of_false (not_declaresHere_enter name) (not_declaresHere_enter name)⟩

theorem Agrees.under_similar (agree : a.Agrees b) (constraints : Constraints) :
    (a.under constraints).Similar (b.under constraints) :=
  ⟨agree.under constraints, fun name =>
    iff_of_false (not_declaresHere_under constraints name) (not_declaresHere_under constraints name)⟩

theorem Similar.declare (similar : a.Similar b) {symbol : Symbol} (fresh : ¬a.declaresHere symbol.name) :
    ∃ declared declared', a.declare symbol = .ok declared ∧ b.declare symbol = .ok declared' ∧
      declared.Similar declared' := by
  have opened := declare_eq fresh
  have opened' := declare_eq fun (taken : b.declaresHere symbol.name) => fresh ((similar.declaresHere _).mpr taken)
  refine ⟨_, _, opened, opened', ⟨⟨fun name => ?_, fun key => ?_⟩, fun name => ?_⟩⟩
  · simp only [declares, lookup_declare opened, lookup_declare opened']
    split
    · rfl
    · exact similar.declares name
  · rw [typeOf_declare opened, typeOf_declare opened', similar.typeOf]
  · rw [declaresHere_declare opened, declaresHere_declare opened', similar.declaresHere]

end Scope

namespace Statement

theorem declare_congr {a b : Scope} (similar : a.Similar b) (symbol : Symbol) (position : Position) (log : Log) :
    (declare a symbol position log).log = (declare b symbol position log).log ∧
      (declare a symbol position log).scope.Similar (declare b symbol position log).scope := by
  by_cases taken : a.declaresHere symbol.name
  · have taken' := (similar.declaresHere _).mp taken
    rw [declare, declare, Scope.declare_error taken, Scope.declare_error taken']
    exact ⟨rfl, similar⟩
  · obtain ⟨_, _, opened, opened', after⟩ := similar.declare taken
    rw [declare, declare, opened, opened']
    exact ⟨rfl, after⟩

theorem openLoop_congr (context : Context) {a b : Scope} (agree : a.Agrees b) (name : String) (iterable : Expr)
    (span : Span) : (openLoop context a name iterable span).log = (openLoop context b name iterable span).log ∧
      (openLoop context a name iterable span).scope.Similar (openLoop context b name iterable span).scope := by
  rw [openLoop, openLoop, Expr.infer_congr context iterable agree]
  obtain ⟨same, after⟩ := declare_congr agree.enter_similar
    ⟨name, .localBinding, (loopVar iterable (iterable.infer context b).type).1⟩ span.start
    ⟨[], (loopVar iterable (iterable.infer context b).type).2⟩
  exact ⟨by simp only [same], after⟩

mutual
theorem check_congr (context : Context) : ∀ (statement : Statement) {a b : Scope}, a.Similar b →
    (statement.check context a).log = (statement.check context b).log ∧
      (statement.check context a).scope.Similar (statement.check context b).scope
  | text _ _, _, _, similar => ⟨rfl, similar⟩
  | print expr _ _, _, _, similar => by
    rw [check, check, Expr.infer_congr context expr similar.toAgrees]
    exact ⟨rfl, similar⟩
  | param name kind typeExpr span, _, _, similar => by
    rw [check, check]
    split
    · exact declare_congr similar _ _ _
    · exact declare_congr similar _ _ _
  | letValue name value span, _, _, similar => by
    rw [check, check, Expr.infer_congr context value similar.toAgrees]
    exact declare_congr similar _ _ _
  | letBlock name body span, _, _, similar => by
    rw [check, check, (checkBlock_congr context body similar.enter_similar).1]
    exact declare_congr similar _ _ _
  | choose branches otherwise span, _, _, similar => by
    obtain ⟨tried, after⟩ := checkBranches_congr context branches similar.enter
    rw [check_choose, check_choose]
    exact ⟨by simp only [tried, checkOptional_congr context otherwise after], similar⟩
  | foreach name iterable body ifEmpty span, _, _, similar => by
    obtain ⟨opened, inside⟩ := openLoop_congr context similar.toAgrees name iterable span
    rw [check_foreach, check_foreach]
    refine ⟨?_, similar⟩
    simp only [opened, (checkBlock_congr context body inside).1, checkOptional_congr context ifEmpty similar.toAgrees]

theorem checkBlock_congr (context : Context) : ∀ (body : List Statement) {a b : Scope}, a.Similar b →
    (checkBlock context a body).log = (checkBlock context b body).log ∧
      (checkBlock context a body).scope.Similar (checkBlock context b body).scope
  | [], _, _, similar => ⟨rfl, similar⟩
  | statement :: rest, _, _, similar => by
    obtain ⟨first, after⟩ := check_congr context statement similar
    obtain ⟨others, last⟩ := checkBlock_congr context rest after
    rw [checkBlock, checkBlock]
    exact ⟨by simp only [first, others], last⟩

theorem checkBranches_congr (context : Context) : ∀ (branches : List (Branch (List Statement))) {a b : Scope},
    a.Agrees b → (checkBranches context a branches).log = (checkBranches context b branches).log ∧
      (checkBranches context a branches).scope.Agrees (checkBranches context b branches).scope
  | [], _, _, agree => ⟨rfl, agree⟩
  | ⟨condition, body, _⟩ :: rest, _, b, agree => by
    let known := condition.refine (condition.infer context b).log.typeOf context.version.isModern
    obtain ⟨others, last⟩ := checkBranches_congr context rest (agree.assume known.whenFalse)
    rw [checkBranches, checkBranches, Expr.infer_congr context condition agree]
    refine ⟨?_, last⟩
    simp only [known] at others
    simp only [(checkBlock_congr context body (agree.under_similar known.whenTrue)).1, others, known]

theorem checkOptional_congr (context : Context) : ∀ (body : Option (List Statement)) {a b : Scope}, a.Agrees b →
    checkOptional context a body = checkOptional context b body
  | none, _, _, _ => rfl
  | some body, _, _, agree => (checkBlock_congr context body agree.enter_similar).1
end

end Statement
end TypedTemplate
