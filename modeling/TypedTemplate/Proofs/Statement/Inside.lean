import TypedTemplate.Proofs.Statement.Optional

namespace TypedTemplate.Statement

mutual
def inside : Statement → List Statement
  | letBlock name body span => letBlock name body span :: bodyInside body
  | choose branches none span => choose branches none span :: branchInside branches
  | choose branches (some body) span => choose branches (some body) span :: (branchInside branches ++ bodyInside body)
  | foreach var iterable body none span => foreach var iterable body none span :: bodyInside body
  | foreach var iterable body (some ifEmpty) span =>
    foreach var iterable body (some ifEmpty) span :: (bodyInside body ++ bodyInside ifEmpty)
  | simple => [simple]

def bodyInside : List Statement → List Statement
  | [] => []
  | statement :: rest => statement.inside ++ bodyInside rest

def branchInside : List (Branch (List Statement)) → List Statement
  | [] => []
  | ⟨_, body, _⟩ :: rest => bodyInside body ++ branchInside rest
end

def optionalInside : Option (List Statement) → List Statement
  | none => []
  | some body => bodyInside body

-- The expressions that a statement has for itself, and not for what is inside it.
def ownExpressions : Statement → List Expr
  | text .. | param .. | letBlock .. => []
  | print expr _ _ => [expr]
  | letValue _ value _ => [value]
  | choose branches _ _ => branches.map Branch.condition
  | foreach _ iterable _ _ _ => [iterable]

def printedExpr? : Statement → Option Expr
  | print expr _ _ => some expr
  | _ => none

def optionalPrinted : Option (List Statement) → List Expr
  | none => []
  | some body => bodyPrinted body

section choose

variable (branches : List (Branch (List Statement))) (otherwise : Option (List Statement)) (span : Span)

theorem inside_choose : (choose branches otherwise span).inside =
    choose branches otherwise span :: (branchInside branches ++ optionalInside otherwise) := by
  cases otherwise <;> simp [inside, optionalInside]

theorem printed_choose : (choose branches otherwise span).printed = branchPrinted branches ++ optionalPrinted otherwise := by
  cases otherwise <;> simp [printed, optionalPrinted]

end choose

section foreach

variable (var : String) (iterable : Expr) (body : List Statement) (ifEmpty : Option (List Statement)) (span : Span)

theorem inside_foreach : (foreach var iterable body ifEmpty span).inside =
    foreach var iterable body ifEmpty span :: (bodyInside body ++ optionalInside ifEmpty) := by
  cases ifEmpty <;> simp [inside, optionalInside]

theorem printed_foreach : (foreach var iterable body ifEmpty span).printed = bodyPrinted body ++ optionalPrinted ifEmpty := by
  cases ifEmpty <;> simp [printed, optionalPrinted]

end foreach

theorem self_mem_inside (statement : Statement) : statement ∈ statement.inside := by
  cases statement with
  | choose branches otherwise span => rw [inside_choose]; exact List.mem_cons_self
  | foreach var iterable body ifEmpty span => rw [inside_foreach]; exact List.mem_cons_self
  | text | print | param | letValue | letBlock => simp [inside]

mutual
theorem printed_eq : ∀ statement : Statement, statement.printed = statement.inside.filterMap printedExpr?
  | text .. | param .. | letValue .. | print .. => rfl
  | letBlock _ body _ => by
    rw [printed, inside, bodyPrinted_eq body]
    rfl
  | choose branches otherwise _ => by
    rw [printed_choose, inside_choose, branchPrinted_eq branches, optionalPrinted_eq otherwise, ← List.filterMap_append]
    rfl
  | foreach _ _ body ifEmpty _ => by
    rw [printed_foreach, inside_foreach, bodyPrinted_eq body, optionalPrinted_eq ifEmpty, ← List.filterMap_append]
    rfl

theorem bodyPrinted_eq : ∀ body : List Statement, bodyPrinted body = (bodyInside body).filterMap printedExpr?
  | [] => rfl
  | statement :: rest => by
    rw [bodyPrinted, bodyInside, printed_eq statement, bodyPrinted_eq rest, List.filterMap_append]

theorem branchPrinted_eq : ∀ branches : List (Branch (List Statement)),
    branchPrinted branches = (branchInside branches).filterMap printedExpr?
  | [] => rfl
  | ⟨_, body, _⟩ :: rest => by
    rw [branchPrinted, branchInside, bodyPrinted_eq body, branchPrinted_eq rest, List.filterMap_append]

theorem optionalPrinted_eq : ∀ body : Option (List Statement),
    optionalPrinted body = (optionalInside body).filterMap printedExpr?
  | none => rfl
  | some body => bodyPrinted_eq body
end

mutual
theorem printed_sublist : ∀ statement : Statement, statement.printed.Sublist statement.expressions
  | text .. | param .. | print .. => List.Sublist.refl _
  | letValue .. => List.nil_sublist _
  | letBlock _ body _ => by
    rw [printed, expressions]
    exact bodyPrinted_sublist body
  | choose branches otherwise _ => by
    rw [printed_choose, expressions_choose]
    exact (branchPrinted_sublist branches).append (optionalPrinted_sublist otherwise)
  | foreach _ _ body ifEmpty _ => by
    rw [printed_foreach, expressions_foreach]
    exact ((bodyPrinted_sublist body).append (optionalPrinted_sublist ifEmpty)).cons _

theorem bodyPrinted_sublist : ∀ body : List Statement, (bodyPrinted body).Sublist (bodyExpressions body)
  | [] => List.Sublist.refl _
  | statement :: rest => by
    rw [bodyPrinted, bodyExpressions]
    exact (printed_sublist statement).append (bodyPrinted_sublist rest)

theorem branchPrinted_sublist : ∀ branches : List (Branch (List Statement)),
    (branchPrinted branches).Sublist (branchExpressions branches)
  | [] => List.Sublist.refl _
  | ⟨_, body, _⟩ :: rest => by
    rw [branchPrinted, branchExpressions]
    exact ((bodyPrinted_sublist body).append (branchPrinted_sublist rest)).cons _

theorem optionalPrinted_sublist : ∀ body : Option (List Statement),
    (optionalPrinted body).Sublist (optionalExpressions body)
  | none => List.Sublist.refl _
  | some body => bodyPrinted_sublist body
end

mutual
theorem mem_expressions {expr : Expr} : ∀ statement : Statement,
    expr ∈ statement.expressions ↔ ∃ inner ∈ statement.inside, expr ∈ inner.ownExpressions
  | text .. | param .. | print .. | letValue .. => by simp [expressions, inside, ownExpressions]
  | letBlock _ body _ => by
    rw [expressions, inside, mem_bodyExpressions body]
    simp [ownExpressions]
  | choose branches otherwise _ => by
    rw [expressions_choose, inside_choose, List.mem_append, mem_branchExpressions branches,
      mem_optionalExpressions otherwise]
    simp [ownExpressions, or_and_right, exists_or, or_assoc]
  | foreach _ iterable body ifEmpty _ => by
    rw [expressions_foreach, inside_foreach, List.mem_cons, List.mem_append, mem_bodyExpressions body,
      mem_optionalExpressions ifEmpty]
    simp [ownExpressions, or_and_right, exists_or]

theorem mem_bodyExpressions {expr : Expr} : ∀ body : List Statement,
    expr ∈ bodyExpressions body ↔ ∃ inner ∈ bodyInside body, expr ∈ inner.ownExpressions
  | [] => by simp [bodyExpressions, bodyInside]
  | statement :: rest => by
    rw [bodyExpressions, bodyInside, List.mem_append, mem_expressions statement, mem_bodyExpressions rest]
    simp [or_and_right, exists_or]

theorem mem_branchExpressions {expr : Expr} : ∀ branches : List (Branch (List Statement)),
    expr ∈ branchExpressions branches ↔
      expr ∈ branches.map Branch.condition ∨ ∃ inner ∈ branchInside branches, expr ∈ inner.ownExpressions
  | [] => by simp [branchExpressions, branchInside]
  | ⟨condition, body, _⟩ :: rest => by
    rw [branchExpressions, branchInside, List.mem_cons, List.mem_append, mem_bodyExpressions body,
      mem_branchExpressions rest, List.map_cons, List.mem_cons]
    simp only [List.mem_append, or_and_right, exists_or, or_assoc, or_left_comm]

theorem mem_optionalExpressions {expr : Expr} : ∀ body : Option (List Statement),
    expr ∈ optionalExpressions body ↔ ∃ inner ∈ optionalInside body, expr ∈ inner.ownExpressions
  | none => by simp [optionalExpressions, optionalInside]
  | some body => mem_bodyExpressions body
end

end TypedTemplate.Statement
