import TypedTemplate.Proofs.Expr.Cause
import TypedTemplate.Proofs.Statement.Accounts

namespace TypedTemplate

-- What a diagnostic about statements goes back to: it is about no expression, it has a cause in
-- one, or a loop runs over something of a type that it cannot run over.
inductive Diagnostic.Reasoned (modern : Bool) (recorded : Nat → Ty → Prop) (terms : List Expr) : Diagnostic → Prop
  | nobody {diagnostic : Diagnostic} (unplaced : diagnostic.node = none) : Reasoned modern recorded terms diagnostic
  | inside {diagnostic : Diagnostic} (caused : diagnostic.Caused modern recorded terms) :
    Reasoned modern recorded terms diagnostic
  | loop {iterable : Expr} {type : Ty} {operands : String} (listed : iterable ∈ terms)
    (typed : recorded iterable.id type) (known : type ≠ .unknown) :
    Reasoned modern recorded terms (Expr.blame iterable.node (.badOperandType "foreach" operands))

theorem Diagnostic.Reasoned.imp {diagnostic : Diagnostic} {modern : Bool} {recorded recorded' : Nat → Ty → Prop}
    {terms terms' : List Expr} (reasoned : diagnostic.Reasoned modern recorded terms)
    (still : ∀ id type, recorded id type → recorded' id type) (within : terms ⊆ terms') :
    diagnostic.Reasoned modern recorded' terms' := by
  cases reasoned with
  | nobody unplaced => exact .nobody unplaced
  | inside caused => exact .inside (caused.imp still within)
  | loop listed typed known => exact .loop (within listed) (still _ _ typed) known

namespace Log

def Reasons (log : Log) (modern : Bool) (terms : List Expr) : Prop :=
  ∀ diagnostic ∈ log.diagnostics, diagnostic.Reasoned modern log.Recorded terms

variable {a b log : Log} {modern : Bool} {terms terms' : List Expr}

theorem Causes.reasons (causes : log.Causes modern terms) : log.Reasons modern terms :=
  fun diagnostic listed => .inside (causes diagnostic listed)

theorem Reasons.empty : Log.empty.Reasons modern [] := nofun

theorem Reasons.append (first : a.Reasons modern terms) (second : b.Reasons modern terms') :
    (a ++ b).Reasons modern (terms ++ terms') := by
  intro diagnostic listed
  rcases List.mem_append.mp listed with earlier | later
  · exact (first diagnostic earlier).imp (fun _ _ found => mem_types_append.mpr (.inl found)) (List.subset_append_left _ _)
  · exact (second diagnostic later).imp (fun _ _ found => mem_types_append.mpr (.inr found)) (List.subset_append_right _ _)

theorem Reasons.report {reported : List Diagnostic} (reasons : log.Reasons modern terms)
    (own : ∀ diagnostic ∈ reported, diagnostic.Reasoned modern log.Recorded terms) :
    (log ++ ⟨[], reported⟩).Reasons modern terms :=
  List.forall_mem_append.mpr ⟨reasons, own⟩

end Log

namespace Statement

open Log

variable {modern : Bool} {log : Log} {terms : List Expr}

theorem declare_reasons (reasons : log.Reasons modern terms) (scope : Scope) (symbol : Symbol) (position : Position) :
    (declare scope symbol position log).log.Reasons modern terms := by
  obtain ⟨reported, same, nobody⟩ := declare_log scope symbol position log
  rw [same]
  exact reasons.report fun diagnostic listed => .nobody (nobody diagnostic listed)

theorem openLoop_reasons (context : Context) (scope : Scope) (name : String) (iterable : Expr) (span : Span) :
    (openLoop context scope name iterable span).log.Reasons context.version.isModern iterable.subterms := by
  have looped : ((iterable.infer context scope).log ++ ⟨[], (loopVar iterable (iterable.infer context scope).type).2⟩ :
      Log).Reasons context.version.isModern iterable.subterms := by
    refine (Expr.infer_causes context iterable scope).reasons.report ?_
    unfold loopVar
    split
    · exact nofun
    · rename_i fault failed
      obtain ⟨known, operands, rfl⟩ := element_error failed
      exact List.forall_mem_singleton.mpr
        (.loop iterable.self_mem_subterms (Expr.infer_recorded context scope iterable) known)
  obtain ⟨reported, same, nobody⟩ := declare_log scope.enter
    ⟨name, .localBinding, (loopVar iterable (iterable.infer context scope).type).1⟩ span.start
    ⟨[], (loopVar iterable (iterable.infer context scope).type).2⟩
  rw [openLoop, same, ← append_assoc]
  exact looped.report fun diagnostic listed => .nobody (nobody diagnostic listed)

mutual
theorem check_reasons (context : Context) : ∀ (statement : Statement) (scope : Scope),
    (statement.check context scope).log.Reasons context.version.isModern (statement.expressions.flatMap Expr.subterms)
  | text .., _ => .empty
  | print expr _ _, scope => by
    rw [expressions, List.flatMap_singleton, check]
    exact (Expr.infer_causes context expr scope).reasons
  | param name kind typeExpr span, scope => by
    rw [check]
    split
    · exact declare_reasons .empty _ _ _
    · rename_i diagnostic failed
      obtain ⟨demand, _, rfl⟩ := TypeExpr.resolve_error failed
      have unplaced : Log.Reasons ⟨[], [demand.diagnostic]⟩ context.version.isModern [] :=
        List.forall_mem_singleton.mpr (.nobody demand.diagnostic_nobody)
      exact declare_reasons unplaced _ _ _
  | letValue name value span, scope => by
    rw [expressions, List.flatMap_singleton, check]
    exact declare_reasons (Expr.infer_causes context value scope).reasons _ _ _
  | letBlock name body span, scope => by
    rw [expressions, check]
    exact declare_reasons (checkBlock_reasons context body scope.enter) _ _ _
  | choose branches otherwise span, scope => by
    rw [expressions_choose, List.flatMap_append, check_choose]
    exact (checkBranches_reasons context branches _).append (checkOptional_reasons context otherwise _)
  | foreach name iterable body ifEmpty span, scope => by
    rw [expressions_foreach, List.flatMap_cons, List.flatMap_append, check_foreach, append_assoc]
    exact (openLoop_reasons context scope name iterable span).append
      ((checkBlock_reasons context body _).append (checkOptional_reasons context ifEmpty scope))

theorem checkBlock_reasons (context : Context) : ∀ (body : List Statement) (scope : Scope),
    (checkBlock context scope body).log.Reasons context.version.isModern ((bodyExpressions body).flatMap Expr.subterms)
  | [], _ => .empty
  | statement :: rest, scope => by
    rw [bodyExpressions, List.flatMap_append, checkBlock]
    exact (check_reasons context statement scope).append (checkBlock_reasons context rest _)

theorem checkBranches_reasons (context : Context) : ∀ (branches : List (Branch (List Statement))) (scope : Scope),
    (checkBranches context scope branches).log.Reasons context.version.isModern
      ((branchExpressions branches).flatMap Expr.subterms)
  | [], _ => .empty
  | ⟨condition, body, _⟩ :: rest, scope => by
    rw [branchExpressions, List.flatMap_cons, List.flatMap_append, checkBranches, append_assoc]
    exact (Expr.infer_causes context condition scope).reasons.append
      ((checkBlock_reasons context body _).append (checkBranches_reasons context rest _))

theorem checkOptional_reasons (context : Context) : ∀ (body : Option (List Statement)) (scope : Scope),
    (checkOptional context scope body).Reasons context.version.isModern
      ((optionalExpressions body).flatMap Expr.subterms)
  | none, _ => .empty
  | some body, scope => checkBlock_reasons context body scope.enter
end

end Statement
end TypedTemplate
