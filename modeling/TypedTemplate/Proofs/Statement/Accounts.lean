import TypedTemplate.Proofs.Expr.Accounts
import TypedTemplate.Proofs.Statement.Optional
import TypedTemplate.Proofs.TypeExpr.Resolve

namespace TypedTemplate.Statement

open Log
open TypedTemplate.Expr (distinct_append apart_append)

mutual
def iterables : Statement → List Expr
  | text .. | print .. | param .. | letValue .. => []
  | letBlock _ body _ => bodyIterables body
  | choose branches none _ => branchIterables branches
  | choose branches (some body) _ => branchIterables branches ++ bodyIterables body
  | foreach _ iterable body none _ => iterable :: bodyIterables body
  | foreach _ iterable body (some ifEmpty) _ => iterable :: (bodyIterables body ++ bodyIterables ifEmpty)

def bodyIterables : List Statement → List Expr
  | [] => []
  | statement :: rest => statement.iterables ++ bodyIterables rest

def branchIterables : List (Branch (List Statement)) → List Expr
  | [] => []
  | ⟨_, body, _⟩ :: rest => bodyIterables body ++ branchIterables rest
end

def optionalIterables : Option (List Statement) → List Expr
  | none => []
  | some body => bodyIterables body

theorem iterables_choose (branches : List (Branch (List Statement))) (otherwise : Option (List Statement)) (span : Span) :
    (choose branches otherwise span).iterables = branchIterables branches ++ optionalIterables otherwise := by
  cases otherwise <;> simp [iterables, optionalIterables]

theorem iterables_foreach (name : String) (iterable : Expr) (body : List Statement)
    (ifEmpty : Option (List Statement)) (span : Span) :
    (foreach name iterable body ifEmpty span).iterables =
      iterable :: (bodyIterables body ++ optionalIterables ifEmpty) := by
  cases ifEmpty <;> simp [iterables, optionalIterables]

theorem declare_log (scope : Scope) (symbol : Symbol) (position : Position) (log : Log) :
    ∃ reported : List Diagnostic, (declare scope symbol position log).log = log ++ ⟨[], reported⟩ ∧
      ∀ diagnostic ∈ reported, diagnostic.node = none := by
  unfold declare
  split
  · exact ⟨[], (append_empty log).symm, nofun⟩
  · exact ⟨_, rfl, by simp⟩

theorem declare_accounts {log : Log} {terms iterables : List Expr} (accounts : log.Accounts terms iterables)
    (scope : Scope) (symbol : Symbol) (position : Position) :
    (declare scope symbol position log).log.Accounts terms iterables := by
  obtain ⟨reported, same, nobody⟩ := declare_log scope symbol position log
  rw [same]
  exact accounts.report nobody

theorem element_error {type : Ty} {fault : Fault} (failed : Ty.element type = .error fault) :
    type ≠ .unknown ∧ ∃ operands, fault = .badOperandType "foreach" operands := by
  unfold Ty.element at failed
  split at failed
  · cases failed
  · cases failed
  · split at failed <;> cases failed
    exact ⟨nofun, _, rfl⟩
  · rename_i known _ _
    cases failed
    exact ⟨known, _, rfl⟩

theorem openLoop_accounts {context : Context} {scope : Scope} {iterable : Expr} {iterables : List Expr}
    (part : (iterable.infer context scope).Accounts iterable iterables) (listed : iterable ∈ iterables) (name : String)
    (span : Span) : (openLoop context scope name iterable span).log.Accounts iterable.subterms iterables := by
  have looped : ((iterable.infer context scope).log ++ ⟨[], (loopVar iterable (iterable.infer context scope).type).2⟩ :
      Log).Accounts iterable.subterms iterables := by
    unfold loopVar
    split
    · exact part.log.report nofun
    · rename_i fault failed
      obtain ⟨known, operands, same⟩ := element_error failed
      subst same
      refine ⟨?_, fun diagnostic found => ?_⟩
      · rw [blamed_append]
        refine part.log.distinct.append (List.nodup_singleton _) fun id blamed own => ?_
        rw [List.mem_singleton.mp own] at blamed
        exact part.clears.clear known blamed
      · rcases List.mem_append.mp found with earlier | own
        · rw [← List.append_nil iterable.subterms]
          exact (part.log.explained diagnostic earlier).left
        · intro id about
          rw [List.mem_singleton.mp own] at about ⊢
          cases about
          refine ⟨iterable, iterable.self_mem_subterms, rfl, rfl, .iterable listed ?_ known⟩
          exact mem_types_append.mpr (.inl part.clears.typed)
  obtain ⟨reported, same, nobody⟩ := declare_log scope.enter
    ⟨name, .localBinding, (loopVar iterable (iterable.infer context scope).type).1⟩ span.start
    ⟨[], (loopVar iterable (iterable.infer context scope).type).2⟩
  rw [openLoop, same, ← append_assoc]
  exact looped.report nobody

mutual
theorem check_accounts (context : Context) (all : List Expr) : ∀ (statement : Statement) (scope : Scope),
    statement.iterables ⊆ all → ((statement.expressions.flatMap Expr.subterms).map Expr.id).Nodup →
    (statement.check context scope).log.Accounts (statement.expressions.flatMap Expr.subterms) all
  | text .., _, _, _ => .empty
  | print expr _ _, scope, _, distinct => by
    rw [expressions, List.flatMap_singleton] at distinct ⊢
    rw [check]
    exact (Expr.infer_accounts context all expr scope distinct).log
  | param name kind typeExpr span, scope, _, _ => by
    rw [check]
    split
    · exact declare_accounts .empty _ _ _
    · rename_i diagnostic failed
      refine declare_accounts (Accounts.empty.report ?_) _ _ _
      obtain ⟨demand, _, rfl⟩ := TypeExpr.resolve_error failed
      simp [demand.diagnostic_nobody]
  | letValue name value span, scope, _, distinct => by
    rw [expressions, List.flatMap_singleton] at distinct ⊢
    rw [check]
    exact declare_accounts (Expr.infer_accounts context all value scope distinct).log _ _ _
  | letBlock name body span, scope, within, distinct => by
    rw [iterables] at within
    rw [expressions] at distinct ⊢
    rw [check]
    exact declare_accounts (checkBlock_accounts context all body scope.enter within distinct) _ _ _
  | choose branches otherwise span, scope, within, distinct => by
    rw [iterables_choose, List.append_subset] at within
    rw [expressions_choose, List.flatMap_append] at distinct ⊢
    have apart := distinct_append distinct
    rw [check_choose]
    exact (checkBranches_accounts context all branches _ within.1 apart.1).append
      (checkOptional_accounts context all otherwise _ within.2 apart.2) (apart_append distinct)
  | foreach name iterable body ifEmpty span, scope, within, distinct => by
    rw [iterables_foreach, List.cons_subset, List.append_subset] at within
    rw [expressions_foreach, List.flatMap_cons, List.flatMap_append] at distinct ⊢
    obtain ⟨first, rest⟩ := distinct_append distinct
    obtain ⟨second, third⟩ := distinct_append rest
    have part := Expr.infer_accounts context all iterable scope first
    have opened := openLoop_accounts part within.1 name span
    have inner := checkBlock_accounts context all body (openLoop context scope name iterable span).scope within.2.1 second
    have last := checkOptional_accounts context all ifEmpty scope within.2.2 third
    rw [check_foreach, append_assoc]
    exact opened.append (inner.append last (apart_append rest)) (apart_append distinct)

theorem checkBlock_accounts (context : Context) (all : List Expr) : ∀ (body : List Statement) (scope : Scope),
    bodyIterables body ⊆ all → (((bodyExpressions body).flatMap Expr.subterms).map Expr.id).Nodup →
    (checkBlock context scope body).log.Accounts ((bodyExpressions body).flatMap Expr.subterms) all
  | [], _, _, _ => .empty
  | statement :: rest, scope, within, distinct => by
    rw [bodyIterables, List.append_subset] at within
    rw [bodyExpressions, List.flatMap_append] at distinct ⊢
    have apart := distinct_append distinct
    rw [checkBlock]
    exact (check_accounts context all statement scope within.1 apart.1).append
      (checkBlock_accounts context all rest _ within.2 apart.2) (apart_append distinct)

theorem checkBranches_accounts (context : Context) (all : List Expr) : ∀ (branches : List (Branch (List Statement)))
    (scope : Scope), branchIterables branches ⊆ all →
    (((branchExpressions branches).flatMap Expr.subterms).map Expr.id).Nodup →
    (checkBranches context scope branches).log.Accounts ((branchExpressions branches).flatMap Expr.subterms) all
  | [], _, _, _ => .empty
  | ⟨condition, body, _⟩ :: rest, scope, within, distinct => by
    rw [branchIterables, List.append_subset] at within
    rw [branchExpressions, List.flatMap_cons, List.flatMap_append] at distinct ⊢
    obtain ⟨first, others⟩ := distinct_append distinct
    obtain ⟨second, third⟩ := distinct_append others
    have part := Expr.infer_accounts context all condition scope first
    have inner := checkBlock_accounts context all body (scope.under
      (condition.refine (condition.infer context scope).log.typeOf context.version.isModern).whenTrue) within.1 second
    have later := checkBranches_accounts context all rest (scope.assume
      (condition.refine (condition.infer context scope).log.typeOf context.version.isModern).whenFalse) within.2 third
    rw [checkBranches, append_assoc]
    exact part.log.append (inner.append later (apart_append others)) (apart_append distinct)

theorem checkOptional_accounts (context : Context) (all : List Expr) : ∀ (body : Option (List Statement)) (scope : Scope),
    optionalIterables body ⊆ all → (((optionalExpressions body).flatMap Expr.subterms).map Expr.id).Nodup →
    (checkOptional context scope body).Accounts ((optionalExpressions body).flatMap Expr.subterms) all
  | none, _, _, _ => .empty
  | some body, scope, within, distinct => checkBlock_accounts context all body scope.enter within distinct
end

end TypedTemplate.Statement
