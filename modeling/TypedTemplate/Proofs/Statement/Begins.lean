import TypedTemplate.Proofs.Expr.Cause
import TypedTemplate.Proofs.Statement.Extent

namespace TypedTemplate

def Log.Begins (log : Log) (tokens : List Token) : Prop :=
  ∀ diagnostic ∈ log.diagnostics, ∃ token ∈ tokens, diagnostic.position = token.span.start

variable {tokens : List Token}

theorem Log.Begins.empty : Log.empty.Begins tokens := nofun

theorem Log.Begins.single {diagnostic : Diagnostic} (placed : ∃ token ∈ tokens, diagnostic.position = token.span.start) :
    Log.Begins ⟨[], [diagnostic]⟩ tokens := List.forall_mem_singleton.mpr placed

theorem Log.Begins.append {a b : Log} (first : a.Begins tokens) (second : b.Begins tokens) : (a ++ b).Begins tokens :=
  List.forall_mem_append.mpr ⟨first, second⟩

theorem Expr.infer_begins {expr : Expr} (lies : expr.Lies tokens) (context : Context) (scope : Scope) :
    (expr.infer context scope).log.Begins tokens := by
  intro diagnostic listed
  obtain ⟨term, inside, fault, _, rfl⟩ := infer_blames context expr scope diagnostic listed
  exact (lies term inside).1.starts

namespace Statement

theorem declare_begins {log : Log} {position : Position} (begins : log.Begins tokens)
    (placed : ∃ token ∈ tokens, position = token.span.start) (scope : Scope) (symbol : Symbol) :
    (declare scope symbol position log).log.Begins tokens := by
  unfold declare
  split
  · exact begins
  · exact begins.append (.single placed)

theorem loopVar_begins {iterable : Expr} (lies : iterable.Lies tokens) (type : Ty) :
    Log.Begins ⟨[], (loopVar iterable type).2⟩ tokens := by
  unfold loopVar
  split
  · exact .empty
  · exact .single lies.span.starts

mutual
theorem check_begins (context : Context) : ∀ (statement : Statement) (scope : Scope),
    (∀ deeper ∈ statement.inside, deeper.Settled tokens) → (statement.check context scope).log.Begins tokens
  | text .., _, _ => nofun
  | print expr directives span, scope, settled => by
    have own := settled (print expr directives span) (self_mem_inside _)
    rw [check]
    exact Expr.infer_begins (own.expressions expr List.mem_cons_self) context scope
  | param name kind typeExpr span, scope, settled => by
    have own := settled (param name kind typeExpr span) (self_mem_inside _)
    rw [check]
    split
    · exact declare_begins .empty own.among.starts _ _
    · rename_i diagnostic failed
      have placed := own.annotated _ (TypeExpr.resolve_placed failed)
      exact declare_begins (.single placed) own.among.starts _ _
  | letValue name value span, scope, settled => by
    have own := settled (letValue name value span) (self_mem_inside _)
    rw [check]
    exact declare_begins (Expr.infer_begins (own.expressions value List.mem_cons_self) context scope) own.among.starts _ _
  | letBlock name body span, scope, settled => by
    have own := settled (letBlock name body span) (self_mem_inside _)
    rw [inside] at settled
    rw [check]
    exact declare_begins (checkBlock_begins context body _ (List.forall_mem_cons.mp settled).2) own.among.starts _ _
  | choose branches otherwise span, scope, settled => by
    have own := settled (choose branches otherwise span) (self_mem_inside _)
    rw [inside_choose, List.forall_mem_cons, List.forall_mem_append] at settled
    rw [check_choose]
    exact (checkBranches_begins context branches _ (List.forall_mem_map.mp own.expressions) settled.2.1).append
      (checkOptional_begins context otherwise _ settled.2.2)
  | foreach name iterable body ifEmpty span, scope, settled => by
    have own := settled (foreach name iterable body ifEmpty span) (self_mem_inside _)
    have lies := own.expressions iterable List.mem_cons_self
    rw [inside_foreach, List.forall_mem_cons, List.forall_mem_append] at settled
    rw [check_foreach]
    have opened : (openLoop context scope name iterable span).log.Begins tokens :=
      (Expr.infer_begins lies context scope).append (declare_begins (loopVar_begins lies _) own.among.starts _ _)
    exact (opened.append (checkBlock_begins context body _ settled.2.1)).append
      (checkOptional_begins context ifEmpty _ settled.2.2)

theorem checkBlock_begins (context : Context) : ∀ (body : List Statement) (scope : Scope),
    (∀ deeper ∈ bodyInside body, deeper.Settled tokens) → (checkBlock context scope body).log.Begins tokens
  | [], _, _ => nofun
  | statement :: rest, scope, settled => by
    rw [bodyInside, List.forall_mem_append] at settled
    rw [checkBlock]
    exact (check_begins context statement scope settled.1).append (checkBlock_begins context rest _ settled.2)

theorem checkBranches_begins (context : Context) : ∀ (branches : List (Branch (List Statement))) (scope : Scope),
    (∀ branch ∈ branches, branch.condition.Lies tokens) → (∀ deeper ∈ branchInside branches, deeper.Settled tokens) →
      (checkBranches context scope branches).log.Begins tokens
  | [], _, _, _ => nofun
  | ⟨condition, body, span⟩ :: rest, scope, lies, settled => by
    rw [List.forall_mem_cons] at lies
    rw [branchInside, List.forall_mem_append] at settled
    rw [checkBranches]
    exact ((Expr.infer_begins lies.1 context scope).append (checkBlock_begins context body _ settled.1)).append
      (checkBranches_begins context rest _ lies.2 settled.2)

theorem checkOptional_begins (context : Context) : ∀ (body : Option (List Statement)) (scope : Scope),
    (∀ deeper ∈ optionalInside body, deeper.Settled tokens) → (checkOptional context scope body).Begins tokens
  | none, _, _ => nofun
  | some body, scope, settled => checkBlock_begins context body scope.enter settled
end

end Statement
end TypedTemplate
