import TypedTemplate.Statement.Check

namespace TypedTemplate.Statement

def checkOptional (context : Context) (scope : Scope) : Option (List Statement) → Log
  | none => .empty
  | some body => (checkBlock context scope.enter body).log

def optionalExpressions : Option (List Statement) → List Expr
  | none => []
  | some body => bodyExpressions body

theorem check_choose (context : Context) (scope : Scope) (branches : List (Branch (List Statement)))
    (otherwise : Option (List Statement)) (span : Span) :
    check context scope (choose branches otherwise span) =
      ⟨scope, (checkBranches context scope.enter branches).log ++
        checkOptional context (checkBranches context scope.enter branches).scope otherwise⟩ := by
  cases otherwise <;> rw [check] <;> rfl

def openLoop (context : Context) (scope : Scope) (name : String) (iterable : Expr) (span : Span) : Checked :=
  let typed := iterable.infer context scope
  let opened := declare scope.enter ⟨name, .localBinding, (loopVar iterable typed.type).1⟩ span.start
    ⟨[], (loopVar iterable typed.type).2⟩
  ⟨opened.scope, typed.log ++ opened.log⟩

theorem check_foreach (context : Context) (scope : Scope) (name : String) (iterable : Expr) (body : List Statement)
    (ifEmpty : Option (List Statement)) (span : Span) :
    check context scope (foreach name iterable body ifEmpty span) =
      ⟨scope, (openLoop context scope name iterable span).log ++
        (checkBlock context (openLoop context scope name iterable span).scope body).log ++
        checkOptional context scope ifEmpty⟩ := by
  cases ifEmpty <;> rw [check] <;> rfl

theorem expressions_choose (branches : List (Branch (List Statement))) (otherwise : Option (List Statement)) (span : Span) :
    (choose branches otherwise span).expressions = branchExpressions branches ++ optionalExpressions otherwise := by
  cases otherwise <;> simp [expressions, optionalExpressions]

theorem expressions_foreach (name : String) (iterable : Expr) (body : List Statement)
    (ifEmpty : Option (List Statement)) (span : Span) :
    (foreach name iterable body ifEmpty span).expressions =
      iterable :: (bodyExpressions body ++ optionalExpressions ifEmpty) := by
  cases ifEmpty <;> simp [expressions, optionalExpressions]

end TypedTemplate.Statement
