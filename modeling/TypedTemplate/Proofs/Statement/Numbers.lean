import TypedTemplate.Proofs.Expr.Numbers
import TypedTemplate.Proofs.Statement.Optional

namespace TypedTemplate.Statement

theorem numbers_declare (scope : Scope) (symbol : Symbol) (position : Position) (log : Log) :
    (declare scope symbol position log).log.numbers = log.numbers := by
  unfold declare
  split
  · rfl
  · rw [Log.numbers_append]; rfl

theorem numbers_openLoop (context : Context) (scope : Scope) (name : String) (iterable : Expr) (span : Span) :
    (openLoop context scope name iterable span).log.numbers = iterable.ids.reverse := by
  rw [openLoop, Log.numbers_append, numbers_declare, Expr.numbers_infer]
  rfl

mutual
theorem numbers_check (context : Context) : ∀ (statement : Statement) (scope : Scope),
    (statement.check context scope).log.numbers = (Expr.idsOf statement.expressions).reverse
  | text .., _ => rfl
  | print expr .., scope => by rw [check, Expr.numbers_infer, expressions, Expr.idsOf_single]
  | param name kind typeExpr span, scope => by
    rw [check]
    split
    · exact numbers_declare _ _ _ _
    · exact numbers_declare _ _ _ _
  | letValue name value span, scope => by rw [check, numbers_declare, Expr.numbers_infer, expressions, Expr.idsOf_single]
  | letBlock name body span, scope => by rw [check, numbers_declare, numbers_checkBlock context body, expressions]
  | choose branches otherwise span, scope => by
    rw [check_choose, Log.numbers_append, numbers_checkBranches context branches, numbers_checkOptional context otherwise,
      expressions_choose, Expr.idsOf_append, List.reverse_append]
  | foreach name iterable body ifEmpty span, scope => by
    rw [check_foreach, Log.numbers_append, Log.numbers_append, numbers_openLoop, numbers_checkBlock context body,
      numbers_checkOptional context ifEmpty, expressions_foreach, Expr.idsOf_cons, Expr.idsOf_append, List.reverse_append,
      List.reverse_append, List.append_assoc]

theorem numbers_checkBlock (context : Context) : ∀ (body : List Statement) (scope : Scope),
    (checkBlock context scope body).log.numbers = (Expr.idsOf (bodyExpressions body)).reverse
  | [], _ => rfl
  | statement :: rest, scope => by
    rw [checkBlock, Log.numbers_append, numbers_check context statement, numbers_checkBlock context rest, bodyExpressions,
      Expr.idsOf_append, List.reverse_append]

theorem numbers_checkBranches (context : Context) : ∀ (branches : List (Branch (List Statement))) (scope : Scope),
    (checkBranches context scope branches).log.numbers = (Expr.idsOf (branchExpressions branches)).reverse
  | [], _ => rfl
  | ⟨condition, body, _⟩ :: rest, scope => by
    rw [checkBranches, Log.numbers_append, Log.numbers_append, Expr.numbers_infer, numbers_checkBlock context body,
      numbers_checkBranches context rest, branchExpressions, Expr.idsOf_cons, Expr.idsOf_append, List.reverse_append,
      List.reverse_append, List.append_assoc]

theorem numbers_checkOptional (context : Context) : ∀ (body : Option (List Statement)) (scope : Scope),
    (checkOptional context scope body).numbers = (Expr.idsOf (optionalExpressions body)).reverse
  | none, _ => rfl
  | some body, scope => numbers_checkBlock context body scope.enter
end

theorem numbers_check_nodup {context : Context} {scope : Scope} {statement : Statement}
    (distinct : (Expr.idsOf statement.expressions).Nodup) : (statement.check context scope).log.numbers.Nodup := by
  rw [numbers_check, List.nodup_reverse]
  exact distinct

theorem mem_numbers_check {context : Context} {scope : Scope} {statement : Statement} {id : Nat} :
    id ∈ (statement.check context scope).log.numbers ↔ id ∈ Expr.idsOf statement.expressions := by
  rw [numbers_check, List.mem_reverse]

end TypedTemplate.Statement
