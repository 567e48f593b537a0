import TypedTemplate.Proofs.Expr.Kept
import TypedTemplate.Proofs.Statement.Optional

namespace TypedTemplate

open Ty (Kept)

def TypeExpr.StandsAmong (typeExpr : TypeExpr) (typeNamed : String → Option Ty) (among : Ty → Prop) : Prop :=
  ∀ type, typeExpr.resolve typeNamed = .ok type → among type

structure Checked.Kept (checked : Checked) (among : Ty → Prop) : Prop where
  scope : checked.scope.Each among
  recorded : checked.log.Each among

namespace Statement

mutual
def annotations : Statement → List TypeExpr
  | text .. | print .. | letValue .. => []
  | param _ _ typeExpr _ => [typeExpr]
  | letBlock _ body _ => bodyAnnotations body
  | choose branches none _ => branchAnnotations branches
  | choose branches (some body) _ => branchAnnotations branches ++ bodyAnnotations body
  | foreach _ _ body none _ => bodyAnnotations body
  | foreach _ _ body (some ifEmpty) _ => bodyAnnotations body ++ bodyAnnotations ifEmpty

def bodyAnnotations : List Statement → List TypeExpr
  | [] => []
  | statement :: rest => statement.annotations ++ bodyAnnotations rest

def branchAnnotations : List (Branch (List Statement)) → List TypeExpr
  | [] => []
  | ⟨_, body, _⟩ :: rest => bodyAnnotations body ++ branchAnnotations rest
end

def optionalAnnotations : Option (List Statement) → List TypeExpr
  | none => []
  | some body => bodyAnnotations body

theorem annotations_choose (branches : List (Branch (List Statement))) (otherwise : Option (List Statement)) (span : Span) :
    (choose branches otherwise span).annotations = branchAnnotations branches ++ optionalAnnotations otherwise := by
  cases otherwise <;> simp [annotations, optionalAnnotations]

theorem annotations_foreach (name : String) (iterable : Expr) (body : List Statement)
    (ifEmpty : Option (List Statement)) (span : Span) :
    (foreach name iterable body ifEmpty span).annotations = bodyAnnotations body ++ optionalAnnotations ifEmpty := by
  cases ifEmpty <;> simp [annotations, optionalAnnotations]

section

variable {among : Ty → Prop} {scope : Scope} {symbol : Symbol} {position : Position} {log : Log} {terms : List Expr}

theorem fine_declare (fine : (declare scope symbol position log).log.Fine among terms) : log.Fine among terms := by
  unfold declare at fine
  split at fine
  · exact fine
  · rw [← List.append_nil terms] at fine
    exact fine.append.1

theorem declare_kept (each : scope.Each among) (holds : among symbol.declared) (recorded : log.Each among) :
    (declare scope symbol position log).Kept among := by
  unfold declare
  cases opened : scope.declare symbol with
  | ok declared => exact ⟨each.declare holds opened, recorded⟩
  | error fault => exact ⟨each, recorded.append nofun⟩

theorem loopVar_kept (kept : Kept among) {iterable : Expr} {type : Ty} (holds : among type)
    (fine : Log.Fine ⟨[], (loopVar iterable type).2⟩ among terms) : among (loopVar iterable type).1 := by
  unfold loopVar at fine ⊢
  split
  · rename_i element found
    exact kept.element holds found
  · rename_i fault failed
    rw [failed] at fine
    exact fine.resolve_right fun right => by cases right.1

theorem openLoop_kept {context : Context} (kept : Kept among) (keeps : context.Keeps among) (each : scope.Each among)
    {iterable : Expr} {name : String} {span : Span}
    (fine : (openLoop context scope name iterable span).log.Fine among iterable.subterms) :
    (openLoop context scope name iterable span).Kept among := by
  rw [openLoop, ← List.append_nil iterable.subterms] at fine
  obtain ⟨inner, opened⟩ := fine.append
  have part := Expr.infer_kept kept keeps iterable each inner
  have var := loopVar_kept kept part.type (fine_declare opened)
  have declared : (declare scope.enter ⟨name, .localBinding, (loopVar iterable (iterable.infer context scope).type).1⟩
      span.start ⟨[], (loopVar iterable (iterable.infer context scope).type).2⟩).Kept among :=
    declare_kept each.enter var nofun
  exact ⟨declared.scope, part.recorded.append declared.recorded⟩

end

-- What a body declares and knows it leaves to those after it in the same block.
mutual
theorem check_kept {among : Ty → Prop} {context : Context} (kept : Kept among) (keeps : context.Keeps among) :
    ∀ (statement : Statement) {scope : Scope}, scope.Each among →
    (∀ typeExpr ∈ statement.annotations, typeExpr.StandsAmong context.typeNamed among) →
    (statement.check context scope).log.Fine among (statement.expressions.flatMap Expr.subterms) →
    (statement.check context scope).Kept among
  | text .., _, each, _, _ => ⟨each, .empty⟩
  | print expr _ _, scope, each, _, fine => by
    rw [check, expressions, List.flatMap_singleton] at fine
    exact ⟨each, (Expr.infer_kept kept keeps expr each fine).recorded⟩
  | param name kind typeExpr span, scope, each, stands, fine => by
    rw [check] at fine ⊢
    split at fine
    · rename_i type resolved
      exact declare_kept each (stands typeExpr (List.mem_singleton_self _) type resolved) .empty
    · have allowed := (fine_declare fine).resolve_right fun right => by cases right.1
      exact declare_kept each allowed nofun
  | letValue name value span, scope, each, _, fine => by
    rw [check, expressions, List.flatMap_singleton] at fine
    have part := Expr.infer_kept kept keeps value each (fine_declare fine)
    rw [check]
    exact declare_kept each part.type part.recorded
  | letBlock name body span, scope, each, stands, fine => by
    rw [annotations] at stands
    rw [check, expressions] at fine
    have inner := checkBlock_kept kept keeps body each.enter stands (fine_declare fine)
    rw [check]
    exact declare_kept each kept.string inner.recorded
  | choose branches otherwise span, scope, each, stands, fine => by
    rw [annotations_choose, List.forall_mem_append] at stands
    rw [check_choose, expressions_choose, List.flatMap_append] at fine
    obtain ⟨first, second⟩ := fine.append
    have tried := checkBranches_kept kept keeps branches each.enter stands.1 first
    rw [check_choose]
    exact ⟨each, tried.recorded.append (checkOptional_kept kept keeps otherwise tried.scope stands.2 second)⟩
  | foreach name iterable body ifEmpty span, scope, each, stands, fine => by
    rw [annotations_foreach, List.forall_mem_append] at stands
    rw [check_foreach, expressions_foreach, List.flatMap_cons, List.flatMap_append, Log.append_assoc] at fine
    obtain ⟨first, rest⟩ := fine.append
    obtain ⟨second, third⟩ := rest.append
    have opened := openLoop_kept kept keeps each first
    have inner := checkBlock_kept kept keeps body opened.scope stands.1 second
    have last := checkOptional_kept kept keeps ifEmpty each stands.2 third
    rw [check_foreach]
    exact ⟨each, (opened.recorded.append inner.recorded).append last⟩

theorem checkBlock_kept {among : Ty → Prop} {context : Context} (kept : Kept among) (keeps : context.Keeps among) :
    ∀ (body : List Statement) {scope : Scope}, scope.Each among →
    (∀ typeExpr ∈ bodyAnnotations body, typeExpr.StandsAmong context.typeNamed among) →
    (checkBlock context scope body).log.Fine among ((bodyExpressions body).flatMap Expr.subterms) →
    (checkBlock context scope body).Kept among
  | [], _, each, _, _ => ⟨each, .empty⟩
  | statement :: rest, scope, each, stands, fine => by
    rw [bodyAnnotations, List.forall_mem_append] at stands
    rw [checkBlock, bodyExpressions, List.flatMap_append] at fine
    have first := check_kept kept keeps statement each stands.1 fine.append.1
    have others := checkBlock_kept kept keeps rest first.scope stands.2 fine.append.2
    rw [checkBlock]
    exact ⟨others.scope, first.recorded.append others.recorded⟩

theorem checkBranches_kept {among : Ty → Prop} {context : Context} (kept : Kept among) (keeps : context.Keeps among) :
    ∀ (branches : List (Branch (List Statement))) {scope : Scope}, scope.Each among →
    (∀ typeExpr ∈ branchAnnotations branches, typeExpr.StandsAmong context.typeNamed among) →
    (checkBranches context scope branches).log.Fine among ((branchExpressions branches).flatMap Expr.subterms) →
    (checkBranches context scope branches).Kept among
  | [], _, each, _, _ => ⟨each, .empty⟩
  | ⟨condition, body, _⟩ :: rest, scope, each, stands, fine => by
    rw [branchAnnotations, List.forall_mem_append] at stands
    rw [checkBranches, branchExpressions, List.flatMap_cons, List.flatMap_append, Log.append_assoc] at fine
    obtain ⟨first, rest'⟩ := fine.append
    obtain ⟨second, third⟩ := rest'.append
    have part := Expr.infer_kept kept keeps condition each first
    have known := Expr.told_kept kept part.recorded context.version.isModern condition
    have inner := checkBlock_kept kept keeps body (each.under known.1) stands.1 second
    have others := checkBranches_kept kept keeps rest (each.assume known.2) stands.2 third
    rw [checkBranches]
    exact ⟨others.scope, (part.recorded.append inner.recorded).append others.recorded⟩

theorem checkOptional_kept {among : Ty → Prop} {context : Context} (kept : Kept among) (keeps : context.Keeps among) :
    ∀ (body : Option (List Statement)) {scope : Scope}, scope.Each among →
    (∀ typeExpr ∈ optionalAnnotations body, typeExpr.StandsAmong context.typeNamed among) →
    (checkOptional context scope body).Fine among ((optionalExpressions body).flatMap Expr.subterms) →
    (checkOptional context scope body).Each among
  | none, _, _, _, _ => .empty
  | some body, _, each, stands, fine => (checkBlock_kept kept keeps body each.enter stands fine).recorded
end

end Statement
end TypedTemplate
