import TypedTemplate.Proofs.Expr.BlurScope

namespace TypedTemplate

-- A field is taken of nothing that is recorded as `null`, and `keys` is not called on
-- what is recorded as a choice between containers.
def Expr.plain (typeOf : Nat → Option Ty) : Expr → Bool
  | field _ base _ false => typeOf base.id != some .null
  | call _ "keys" (arg :: _) => (typeOf arg.id).all fun type => !type.isChoice
  | _ => true

structure Log.Clean (log : Log) (typeOf : Nat → Option Ty) (terms : List Expr) : Prop where
  diagnostics : log.diagnostics = []
  recorded : ∀ entry ∈ log.types, typeOf entry.1 = some entry.2
  plain : ∀ part ∈ terms, part.plain typeOf = true

namespace Log

variable {log log' : Log} {typeOf : Nat → Option Ty} {terms terms' : List Expr}

theorem no_diagnostics_append (first : log.diagnostics = []) (second : log'.diagnostics = []) :
    (log ++ log').diagnostics = [] := by
  rw [diagnostics_append, first, second]
  rfl

theorem Clean.append (clean : (log ++ log').Clean typeOf (terms ++ terms')) :
    log.Clean typeOf terms ∧ log'.Clean typeOf terms' := by
  obtain ⟨diagnostics, recorded, plain⟩ := clean
  rw [diagnostics_append, List.append_eq_nil_iff] at diagnostics
  rw [types_append, List.forall_mem_append] at recorded
  rw [List.forall_mem_append] at plain
  exact ⟨⟨diagnostics.1, recorded.2, plain.1⟩, ⟨diagnostics.2, recorded.1, plain.2⟩⟩

theorem Clean.settle {node : Node} {verdict : Verdict} {expr : Expr}
    (clean : (Expr.settle node log verdict).log.Clean typeOf (terms ++ [expr])) :
    log.Clean typeOf terms ∧ verdict.diagnostics = [] ∧ expr.plain typeOf = true := by
  obtain ⟨first, last⟩ := clean.append
  exact ⟨first, last.diagnostics, last.plain expr List.mem_cons_self⟩

theorem Clean.typeOf_self {context : Context} {scope : Scope} {expr : Expr}
    (clean : (expr.infer context scope).log.Clean typeOf terms) :
    typeOf expr.id = some (expr.infer context scope).type :=
  clean.recorded _ (mem_of_typeOf (Expr.typeOf_infer_self context scope expr))

end Log

namespace Expr

open Formula

variable {context : Context} {scope : Scope} {typeOf : Nat → Option Ty}

theorem of_judged {node : Node} {rule : Except Fault Ty} (clean : (judged node rule).diagnostics = []) :
    rule = .ok (judged node rule).type := by
  cases rule with
  | ok type => rfl
  | error fault => cases clean

theorem read_of_clean (reference : Expr) {key : RefKey} (denotes : reference.refKey? = some key)
    (clean : (reference.infer context scope).log.Clean typeOf reference.subterms) :
    scope.Solid key ∧ scope.read key = some (reference.infer context scope).type := by
  induction reference using refKey?.induct generalizing key with
  | case1 node name =>
    cases denotes
    rw [infer] at clean ⊢
    exact ⟨Scope.solid_bare name, Scope.read_bare.mpr (of_judged clean.diagnostics)⟩
  | case2 node base name ih =>
    have whole := denotes
    obtain ⟨_, outer, denotes', same⟩ := refKey?_field.mp denotes
    subst same
    rw [infer_field, subterms] at clean
    obtain ⟨inner, right, plain⟩ := clean.settle
    obtain ⟨solid, read⟩ := ih denotes' inner
    have other : (base.infer context scope).type ≠ .null := by
      intro same
      rw [Expr.plain, inner.typeOf_self, same] at plain
      cases plain
    refine ⟨Scope.solid_field.mpr ⟨solid, _, read, other⟩, ?_⟩
    have rule := of_judged right
    rw [infer_field, Scope.read_field]
    rw [whole, fieldType, Option.bind_some, narrowedPath_field] at rule ⊢
    cases narrowed : scope.typeOf (outer.field name) with
    | some type => exact .inl rfl
    | none =>
      rw [narrowed] at rule
      exact .inr ⟨rfl, _, read, rule⟩
  | case3 other _ _ => simp_all [refKey?]

theorem formula_solid (context : Context) (condition : Expr) (scope : Scope) (distinct : condition.ids.Nodup)
    (clean : (condition.infer context scope).log.Clean typeOf condition.subterms) :
    (condition.formula context.version.isModern).Each context
      (fun scope reference key => scope.Solid key ∧ scope.read key = some (reference.infer context scope).type) scope := by
  induction condition using refine.induct generalizing scope with
  | case1 node left right | case2 node left right =>
    rw [infer, subterms] at clean
    obtain ⟨first, second⟩ := clean.settle.1.append
    rw [formula]
    exact ofComparison_each (fun _ denotes => read_of_clean left denotes first) (fun _ denotes => read_of_clean right denotes second)
  | case3 node left right first second | case4 node left right first second =>
    obtain ⟨distinct, distinct'⟩ := distinct_binary distinct
    rw [infer, subterms] at clean
    obtain ⟨clean, clean'⟩ := clean.settle.1.append
    rw [rightScope, refine_infer context left scope distinct] at clean'
    rw [formula]
    exact ⟨first scope distinct clean, second _ distinct' clean'⟩
  | case5 node operand ih =>
    rw [infer, subterms] at clean
    rw [formula]
    exact ih scope (distinct_append distinct).1 clean.settle.1
  | case6 node arg =>
    rw [infer, subterms, inferAll, inferAll, subtermsOf, subtermsOf] at clean
    rw [formula]
    exact ofTest_each fun _ denotes => read_of_clean arg denotes clean.settle.1.append.1
  | case7 node name | case8 node base name nullSafe =>
    rw [formula]
    split
    · exact ofTest_each fun _ denotes => read_of_clean _ denotes clean
    · exact trivial
  | case9 condition comparison comparison' conjunction disjunction negation call var field =>
    rw [formula.eq_9 _ _ comparison comparison' conjunction disjunction negation call var field]
    exact trivial

end Expr
end TypedTemplate
