import TypedTemplate.Expr
import TypedTemplate.TypeExpr

namespace TypedTemplate

inductive ParamKind where
  | required | optional | injected | optionalInjected
deriving DecidableEq

structure Branch (Body : Type) where
  condition : Expr
  body : Body
  span : Span

inductive Statement where
  | text (text : String) (span : Span)
  | print (expr : Expr) (directives : List String) (span : Span)
  | param (name : String) (kind : ParamKind) (typeExpr : TypeExpr) (span : Span)
  | letValue (name : String) (value : Expr) (span : Span)
  | letBlock (name : String) (body : List Statement) (span : Span)
  | choose (branches : List (Branch (List Statement))) (otherwise : Option (List Statement)) (span : Span)
  | foreach (var : String) (iterable : Expr) (body : List Statement) (ifEmpty : Option (List Statement)) (span : Span)

namespace Statement

def span : Statement → Span
  | text _ span | print _ _ span | param _ _ _ span | letValue _ _ span | letBlock _ _ span
  | choose _ _ span | foreach _ _ _ _ span => span

mutual
def expressions : Statement → List Expr
  | text .. | param .. => []
  | print expr _ _ => [expr]
  | letValue _ value _ => [value]
  | letBlock _ body _ => bodyExpressions body
  | choose branches none _ => branchExpressions branches
  | choose branches (some body) _ => branchExpressions branches ++ bodyExpressions body
  | foreach _ iterable body none _ => iterable :: bodyExpressions body
  | foreach _ iterable body (some ifEmpty) _ => iterable :: (bodyExpressions body ++ bodyExpressions ifEmpty)

def bodyExpressions : List Statement → List Expr
  | [] => []
  | statement :: rest => statement.expressions ++ bodyExpressions rest

def branchExpressions : List (Branch (List Statement)) → List Expr
  | [] => []
  | ⟨condition, body, _⟩ :: rest => condition :: (bodyExpressions body ++ branchExpressions rest)
end

mutual
def printed : Statement → List Expr
  | text .. | param .. | letValue .. => []
  | print expr _ _ => [expr]
  | letBlock _ body _ => bodyPrinted body
  | choose branches none _ => branchPrinted branches
  | choose branches (some body) _ => branchPrinted branches ++ bodyPrinted body
  | foreach _ _ body none _ => bodyPrinted body
  | foreach _ _ body (some ifEmpty) _ => bodyPrinted body ++ bodyPrinted ifEmpty

def bodyPrinted : List Statement → List Expr
  | [] => []
  | statement :: rest => statement.printed ++ bodyPrinted rest

def branchPrinted : List (Branch (List Statement)) → List Expr
  | [] => []
  | ⟨_, body, _⟩ :: rest => bodyPrinted body ++ branchPrinted rest
end

end Statement
end TypedTemplate
