import TypedTemplate.Proofs.Expr.Findings
import TypedTemplate.Proofs.Expr.Formula
import TypedTemplate.Proofs.Statement.Chain
import TypedTemplate.Proofs.Statement.Numbers

namespace TypedTemplate

theorem Scope.enter_similar_under (scope : Scope) (constraints : Constraints) :
    (scope.under constraints).enter.Similar (scope.under constraints) where
  toAgrees := (Agrees.refl _).enter_left
  declaresHere name := iff_of_false (not_declaresHere_enter name) (not_declaresHere_under constraints name)

namespace Log

-- Two logs with the same types for some expressions, and the same diagnostics up to their
-- order.
structure Reordered (terms : List Expr) (a b : Log) : Prop where
  types : a.TypesAlike b terms
  diagnostics : a.diagnostics.Perm b.diagnostics

-- Of two findings the later one comes first, and other expressions with nothing wrong with
-- them are typed as well.
theorem Reordered.exchanged {terms : List Expr} {first a b between last last' : Log}
    (silent : between.diagnostics = []) (quiet : last.diagnostics = []) (quiet' : last'.diagnostics = [])
    (distinct : (first ++ a ++ b ++ last).numbers.Nodup)
    (distinct' : (first ++ between ++ b ++ a ++ last').numbers.Nodup)
    (typed : ∀ term ∈ terms, term.id ∈ (first ++ a ++ b).numbers) :
    Reordered terms (first ++ a ++ b ++ last) (first ++ between ++ b ++ a ++ last') where
  types := by
    have plain : (first ++ a ++ b).TypesAlike (first ++ a ++ b ++ last) terms :=
      .of_subset (fun _ found => mem_types_append.mpr (.inl found)) distinct typed
    have swapped : (first ++ a ++ b).TypesAlike (first ++ between ++ b ++ a ++ last') terms := by
      refine .of_subset (fun entry found => ?_) distinct' typed
      simp only [mem_types_append] at found ⊢
      exact .inl (or_right_comm.mp (found.imp_left (Or.imp_left .inl)))
    exact plain.symm.trans swapped
  diagnostics := by
    simp only [diagnostics_append, silent, quiet, quiet', List.append_nil, List.append_assoc]
    exact List.Perm.append_left _ List.perm_append_comm

end Log

namespace Expr

open Log

variable (context : Context) (scope : Scope)

theorem infer_not (negation : Node) (operand : Expr) : ∃ type,
    ((unary negation .not operand).infer context scope).log =
      (operand.infer context scope).log ++ ⟨[(negation.id, type)], []⟩ := ⟨_, by rw [infer]; rfl⟩

theorem refine_not {negation : Node} {operand : Expr} (distinct : (unary negation .not operand).ids.Nodup) (modern : Bool) :
    (unary negation .not operand).refine ((unary negation .not operand).infer context scope).log.typeOf modern =
      (operand.refine (operand.infer context scope).log.typeOf modern).swap := by
  rw [refine]
  exact congrArg Refinements.swap (refine_congr modern operand fun _ inside => typeOf_unary distinct inside)

theorem infer_conditional (condition : Expr) {known : Refinements}
    (learned : condition.refine (condition.infer context scope).log.typeOf context.version.isModern = known)
    (node : Node) (first second : Expr) :
    let first' := first.infer context (scope.under known.whenTrue)
    let second' := second.infer context (scope.under known.whenFalse)
    (conditional node condition first second).infer context scope =
      settle node ((condition.infer context scope).log ++ first'.log ++ second'.log)
        ⟨first'.type.join second'.type, []⟩ := by
  subst learned
  rw [infer]
  rfl

theorem conditional_not {condition first second : Expr} {node node' negation : Node}
    (distinct : (conditional node condition first second).ids.Nodup)
    (distinct' : (conditional node' (unary negation .not condition) second first).ids.Nodup) :
    let plain := (conditional node condition first second).infer context scope
    let negated := (conditional node' (unary negation .not condition) second first).infer context scope
    plain.type = negated.type ∧
      Log.Reordered (condition.subterms ++ first.subterms ++ second.subterms) plain.log negated.log := by
  intro plain negated
  have inner : (unary negation .not condition).ids.Nodup :=
    (distinct_append (distinct_append (distinct_append distinct').1).1).1
  obtain ⟨type, opposite⟩ := infer_not context scope negation condition
  have shown := infer_conditional context scope condition rfl node first second
  have shown' := infer_conditional context scope _ (refine_not context scope inner _) node' second first
  have unique : plain.log.numbers.Nodup := numbers_infer_nodup distinct
  have unique' : negated.log.numbers.Nodup := numbers_infer_nodup distinct'
  rw [opposite] at shown'
  simp only [plain, negated, shown, shown', settle] at unique unique' ⊢
  refine ⟨Ty.join_comm _ _, .exchanged rfl rfl rfl unique unique' fun term listed => ?_⟩
  rw [numbers_append, numbers_append, numbers_infer, numbers_infer, numbers_infer, ← List.reverse_append,
    ← List.reverse_append, List.mem_reverse, ids, ids, ids, ← List.map_append, ← List.map_append]
  exact List.mem_map_of_mem listed

end Expr

namespace Statement

open TypedTemplate.Expr (idsOf)

theorem check_if (context : Context) (scope : Scope) (condition : Expr) {known : Refinements}
    (learned : condition.refine (condition.infer context scope).log.typeOf context.version.isModern = known)
    (body : List Statement) (otherwise : Option (List Statement)) (place span : Span) :
    check context scope (choose [⟨condition, body, place⟩] otherwise span) =
      ⟨scope, (condition.infer context scope).log ++ (checkBlock context (scope.under known.whenTrue) body).log ++
        (checkBlock context (scope.under known.whenFalse) (otherwise.getD [])).log⟩ := by
  subst learned
  let known := condition.refine (condition.infer context scope).log.typeOf context.version.isModern
  have entered : condition.infer context scope.enter = condition.infer context scope :=
    Expr.infer_congr context condition (Scope.Agrees.refl scope).enter_left
  have inner : (scope.enter.under known.whenTrue).Similar (scope.under known.whenTrue) :=
    (Scope.Agrees.refl scope).enter_left.under_similar _
  have last : checkOptional context (scope.under known.whenFalse) otherwise =
      (checkBlock context (scope.under known.whenFalse) (otherwise.getD [])).log := by
    cases otherwise with
    | none => rfl
    | some other => exact (checkBlock_congr context other (scope.enter_similar_under _)).1
  simp only [check_choose, checkBranches, entered, Log.append_empty]
  rw [← last, ← (checkBlock_congr context body inner).1]
  rfl

theorem distinct_condition {condition : Expr} {body : List Statement} {rest : List (Branch (List Statement))}
    {otherwise : Option (List Statement)} {place span : Span}
    (distinct : (idsOf (choose (⟨condition, body, place⟩ :: rest) otherwise span).expressions).Nodup) :
    condition.ids.Nodup := by
  rw [expressions_choose, branchExpressions, List.cons_append, Expr.idsOf_cons] at distinct
  exact (List.nodup_append.mp distinct).1

theorem check_if_not (context : Context) (scope : Scope) {condition : Expr} {body other : List Statement}
    {negation : Node} {place place' span span' : Span} :
    let plain := choose [⟨condition, body, place⟩] (some other) span
    let negated := choose [⟨.unary negation .not condition, other, place'⟩] (some body) span'
    (idsOf plain.expressions).Nodup → (idsOf negated.expressions).Nodup →
      Log.Reordered (plain.expressions.flatMap Expr.subterms) (plain.check context scope).log
        (negated.check context scope).log := by
  intro plain negated distinct distinct'
  have inner : (Expr.unary negation .not condition).ids.Nodup := distinct_condition distinct'
  obtain ⟨type, opposite⟩ := Expr.infer_not context scope negation condition
  have shown := check_if context scope condition rfl body (some other) place span
  have shown' := check_if context scope _ (Expr.refine_not context scope inner _) other (some body) place' span'
  have unique : (plain.check context scope).log.numbers.Nodup := numbers_check_nodup distinct
  have unique' : (negated.check context scope).log.numbers.Nodup := numbers_check_nodup distinct'
  have typed : ∀ term ∈ plain.expressions.flatMap Expr.subterms, term.id ∈ (plain.check context scope).log.numbers :=
    fun term inside => mem_numbers_check.mpr (Expr.mem_idsOf inside)
  rw [← Log.append_empty (plain.check context scope).log] at unique ⊢
  rw [← Log.append_empty (negated.check context scope).log] at unique' ⊢
  simp only [plain, negated, shown, shown', opposite, Option.getD_some] at unique unique' typed ⊢
  exact .exchanged rfl rfl rfl unique unique' typed

-- Negating a condition and swapping what depends on it changes nothing, for statements
-- whatever their bodies declare and for expressions: everything has the type it had, and
-- what is wrong with it is the same.
theorem negation_swaps (context : Context) (scope : Scope) (condition : Expr) (negation : Node) :
    (∀ (body other : List Statement) (place place' span span' : Span),
      let plain := choose [⟨condition, body, place⟩] (some other) span
      let swapped := choose [⟨.unary negation .not condition, other, place'⟩] (some body) span'
      (idsOf plain.expressions).Nodup → (idsOf swapped.expressions).Nodup →
        (plain.check context scope).scope = (swapped.check context scope).scope ∧
          Log.Reordered (plain.expressions.flatMap Expr.subterms) (plain.check context scope).log
            (swapped.check context scope).log) ∧
      ∀ (first second : Expr) (node node' : Node),
        let plain := Expr.conditional node condition first second
        let swapped := Expr.conditional node' (.unary negation .not condition) second first
        plain.ids.Nodup → swapped.ids.Nodup →
          (plain.infer context scope).type = (swapped.infer context scope).type ∧
            Log.Reordered (condition.subterms ++ first.subterms ++ second.subterms) (plain.infer context scope).log
              (swapped.infer context scope).log := by
  refine ⟨fun body other place place' span span' distinct distinct' => ⟨?_, ?_⟩, ?_⟩
  · rw [check_choose, check_choose]
  · exact check_if_not context scope distinct distinct'
  · exact fun first second node node' distinct distinct' => Expr.conditional_not context scope distinct distinct'

def partScope : Scope := ⟨⟨[⟨"part", .requiredParam, .nullable (.record [("size", .nullable .int)])⟩], []⟩, []⟩

def partPresent : Expr := .binary (.numbered 2) .notEquals (.var (.numbered 0) "part") (.null (.numbered 1))

def wholePart : Expr := .var (.numbered 3) "part"

-- `{let $part: $part /}{-$part}`
def hidingBody : List Statement :=
  [.letValue "part" wholePart .nowhere, .print (.unary (.numbered 5) .negate (.var (.numbered 4) "part")) [] .nowhere]

def partSize : Expr := .field (.numbered 7) (.var (.numbered 6) "part") "size" false

def sized : Statement := .choose [⟨partPresent, hidingBody, .nowhere⟩] (some [.print partSize [] .nowhere]) .nowhere

def partAbsent : Expr := .unary (.numbered 8) .not partPresent

def swappedSized : Statement := .choose [⟨partAbsent, [.print partSize [] .nowhere], .nowhere⟩] (some hidingBody) .nowhere

-- The first body hides the variable that the condition is about. In each of the two bodies
-- something is wrong, so the order changes.
theorem negation_swaps_sized :
    ((sized.check (.builtin .v2_4) partScope).log.diagnostics.map Diagnostic.node = [some 5, some 7] ∧
      (swappedSized.check (.builtin .v2_4) partScope).log.diagnostics.map Diagnostic.node = [some 7, some 5] ∧
      Log.Reordered (sized.expressions.flatMap Expr.subterms) (sized.check (.builtin .v2_4) partScope).log
        (swappedSized.check (.builtin .v2_4) partScope).log) ∧
      Log.Reordered (partPresent.subterms ++ wholePart.subterms ++ partSize.subterms)
        ((Expr.conditional (.numbered 9) partPresent wholePart partSize).infer (.builtin .v2_4) partScope).log
        ((Expr.conditional (.numbered 9) partAbsent partSize wholePart).infer (.builtin .v2_4) partScope).log := by
  have swaps := negation_swaps (.builtin .v2_4) partScope partPresent (.numbered 8)
  refine ⟨⟨by decide +kernel, by decide +kernel, ?_⟩, ?_⟩
  · exact (swaps.1 hidingBody _ .nowhere .nowhere .nowhere .nowhere (by decide) (by decide)).2
  · exact (swaps.2 wholePart partSize (.numbered 9) (.numbered 9) (by decide) (by decide)).2

end Statement
end TypedTemplate
