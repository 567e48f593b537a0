import TypedTemplate.Proofs.Statement.Condition

namespace TypedTemplate

namespace Log

-- A log that has another one somewhere in it, all else being about other expressions.
def Surrounds (whole part : Log) : Prop :=
  ∃ before after : Log, before.Placed ∧ after.Placed ∧ whole = before ++ part ++ after

theorem judged_placed (node : Node) (result : Except Fault Ty) :
    (⟨[(node.id, (Expr.judged node result).type)], (Expr.judged node result).diagnostics⟩ : Log).Placed := by
  intro diagnostic listed
  cases result with
  | ok type => cases listed
  | error fault =>
    rw [List.mem_singleton.mp listed]
    exact ⟨node.id, List.mem_cons_self, rfl⟩

variable {whole part : Log}

theorem Surrounds.extended (surrounds : whole.Surrounds part) {after : Log} (placed : after.Placed) :
    (whole ++ after).Surrounds part := by
  obtain ⟨before, between, first, second, same⟩ := surrounds
  exact ⟨before, between ++ after, first, second.append placed, by rw [same, append_assoc _ between]⟩

theorem Surrounds.last {before part : Log} (placed : before.Placed) : (before ++ part).Surrounds part :=
  ⟨before, .empty, placed, .empty, (append_empty _).symm⟩

theorem Surrounds.alikeOn {context : Context} {scope : Scope} {expr : Expr}
    (surrounds : whole.Surrounds (expr.infer context scope).log) (distinct : whole.numbers.Nodup) :
    AlikeOn expr (expr.infer context scope).log whole := by
  obtain ⟨before, after, first, second, rfl⟩ := surrounds
  exact Expr.infer_alikeOn first second distinct

end Log

namespace Expr

open Log

variable (context : Context) (scope : Scope)

theorem conditional_surrounds (node : Node) (condition first second : Expr) :
    let known := condition.refine (condition.infer context scope).log.typeOf context.version.isModern
    let whole := ((conditional node condition first second).infer context scope).log
    whole.Surrounds (first.infer context (scope.under known.whenTrue)).log ∧
      whole.Surrounds (second.infer context (scope.under known.whenFalse)).log := by
  intro known whole
  have shown : whole = _ := congrArg Typed.log (infer_conditional context scope condition rfl node first second)
  have begun := infer_placed context scope condition
  have found := infer_placed context (scope.under known.whenTrue) first
  have failed := infer_placed context (scope.under known.whenFalse) second
  rw [shown]
  exact ⟨((Surrounds.last begun).extended failed).extended (judged_placed node (.ok _)),
    (Surrounds.last (begun.append found)).extended (judged_placed node (.ok _))⟩

theorem binary_surrounds (node : Node) (operator : BinaryOperator) (left right : Expr) :
    let within := rightScope context.version.isModern scope operator left (left.infer context scope)
    ((binary node operator left right).infer context scope).log.Surrounds (right.infer context within).log := by
  intro within
  rw [infer]
  exact (Surrounds.last (infer_placed context scope left)).extended (judged_placed node _)

theorem rightScope_orElse {comparison missing : Node} {left : Expr}
    (distinct : (binary comparison .equals left (.null missing)).ids.Nodup) :
    let condition := binary comparison .equals left (.null missing)
    let known := condition.refine (condition.infer context scope).log.typeOf context.version.isModern
    (rightScope context.version.isModern scope .orElse left (left.infer context scope)).Agrees
      (scope.under known.whenTrue) := by
  intro condition known
  have typed : (condition.infer context scope).log.typeOf left.id = some (left.infer context scope).type :=
    (typeOf_binary_left distinct left.id_mem_ids).trans (typeOf_infer_self context scope left)
  have nothing : scope.Agrees (scope.under []) := (Scope.Agrees.refl scope).enter_right
  have learned : known = (refineNonNull (condition.infer context scope).log.typeOf left).swap := by
    simp only [known, condition, refine, refineNullComparison]
    rfl
  rw [learned, refineNonNull, typed, rightScope]
  cases left.refKey? with
  | none => exact nothing
  | some key =>
    dsimp only
    split
    · exact .refl _
    · exact nothing

end Expr

namespace Statement

open TypedTemplate.Expr (idsOf)

-- What an expression does with one of its operands, and a statement that does the same with
-- it. The new expressions have numbers of their own, and places and directives are free.
inductive Unfolds (operand : Expr) : Statement → Statement → Prop
  | thenValue {node condition other place directives directives' directives'' span span' span'' tag} :
    Unfolds operand (print (.conditional node condition operand other) directives span)
      (choose [⟨condition, [print operand directives' span'], place⟩] (some [print other directives'' span'']) tag)
  | elseValue {node condition other place directives directives' directives'' span span' span'' tag} :
    Unfolds operand (print (.conditional node condition other operand) directives span)
      (choose [⟨condition, [print other directives'' span''], place⟩] (some [print operand directives' span']) tag)
  | afterAnd {node left place directives directives' span span' tag} :
    Unfolds operand (print (.binary node .and left operand) directives span)
      (choose [⟨left, [print operand directives' span'], place⟩] none tag)
  | afterOr {node left place directives directives' span span' tag} :
    Unfolds operand (print (.binary node .or left operand) directives span)
      (choose [⟨left, [], place⟩] (some [print operand directives' span']) tag)
  | afterOrElse {node left comparison missing place directives directives' span span' tag} :
    Unfolds operand (print (.binary node .orElse left operand) directives span)
      (choose [⟨.binary comparison .equals left (.null missing), [print operand directives' span'], place⟩] none tag)

variable (context : Context) (scope : Scope)

theorem checkBlock_print (expr : Expr) (directives : List String) (span : Span) :
    (checkBlock context scope [print expr directives span]).log = (expr.infer context scope).log := by
  rw [checkBlock_single, check]

section choose

variable (condition operand : Expr) (directives : List String) (place span tag : Span)

theorem body_surrounds {otherwise : Option (List Statement)}
    (placed : ∀ scope, (checkBlock context scope (otherwise.getD [])).log.Placed) :
    let known := condition.refine (condition.infer context scope).log.typeOf context.version.isModern
    (check context scope (choose [⟨condition, [print operand directives span], place⟩] otherwise tag)).log.Surrounds
      (operand.infer context (scope.under known.whenTrue)).log := by
  intro known
  rw [check_if context scope condition rfl, checkBlock_print]
  exact (Log.Surrounds.last (Expr.infer_placed context scope condition)).extended (placed _)

theorem otherwise_surrounds {body : List Statement} (placed : ∀ scope, (checkBlock context scope body).log.Placed) :
    let known := condition.refine (condition.infer context scope).log.typeOf context.version.isModern
    (check context scope (choose [⟨condition, body, place⟩] (some [print operand directives span]) tag)).log.Surrounds
      (operand.infer context (scope.under known.whenFalse)).log := by
  intro known
  rw [check_if context scope condition rfl, Option.getD_some, checkBlock_print]
  exact .last ((Expr.infer_placed context scope condition).append (placed _))

end choose

theorem print_placed (expr : Expr) (directives : List String) (span : Span) :
    (checkBlock context scope [print expr directives span]).log.Placed := by
  rw [checkBlock_print]
  exact Expr.infer_placed context scope expr

theorem Unfolds.surrounds {operand : Expr} {inline block : Statement} (unfolds : Unfolds operand inline block)
    (distinct : (idsOf block.expressions).Nodup) :
    ∃ within : Scope, (inline.check context scope).log.Surrounds (operand.infer context within).log ∧
      (block.check context scope).log.Surrounds (operand.infer context within).log := by
  cases unfolds with
  | thenValue =>
    rw [check]
    exact ⟨_, (Expr.conditional_surrounds context scope _ _ operand _).1,
      body_surrounds context scope _ operand _ _ _ _ fun scope => print_placed context scope _ _ _⟩
  | elseValue =>
    rw [check]
    exact ⟨_, (Expr.conditional_surrounds context scope _ _ _ operand).2,
      otherwise_surrounds context scope _ operand _ _ _ _ fun scope => print_placed context scope _ _ _⟩
  | afterAnd =>
    rw [check]
    exact ⟨_, Expr.binary_surrounds context scope _ .and _ operand,
      body_surrounds context scope _ operand _ _ _ _ fun _ => .empty⟩
  | afterOr =>
    rw [check]
    exact ⟨_, Expr.binary_surrounds context scope _ .or _ operand,
      otherwise_surrounds context scope _ operand _ _ _ _ fun _ => .empty⟩
  | @afterOrElse node left =>
    have same := Expr.infer_congr context operand (Expr.rightScope_orElse context scope (distinct_condition distinct))
    have inline := Expr.binary_surrounds context scope node .orElse left operand
    simp only [same] at inline
    rw [check]
    exact ⟨_, inline, body_surrounds context scope _ operand _ _ _ _ fun _ => .empty⟩

-- What is found on an operand, its types and what is wrong with it, is the same whether an
-- expression or a statement decides that it is looked at.
theorem unfolded_alike {operand : Expr} {inline block : Statement} (unfolds : Unfolds operand inline block)
    (distinct : (idsOf inline.expressions).Nodup) (distinct' : (idsOf block.expressions).Nodup) :
    Log.AlikeOn operand (inline.check context scope).log (block.check context scope).log := by
  obtain ⟨within, first, second⟩ := unfolds.surrounds context scope distinct'
  exact (first.alikeOn (numbers_check_nodup distinct)).symm.trans (second.alikeOn (numbers_check_nodup distinct'))

def recordScope : Scope := ⟨⟨[⟨"row", .requiredParam, .record [("key", .nullable .string)]⟩], []⟩, []⟩

def rowKey : Expr := .field (.numbered 1) (.var (.numbered 0) "row") "key" false

def negatedKey : Expr := .unary (.numbered 4) .negate (.field (.numbered 3) (.var (.numbered 2) "row") "key" false)

-- `{$row.key ?: -$row.key}`
def fallbackTag : Statement := .print (.binary (.numbered 5) .orElse rowKey negatedKey) [] .nowhere

-- `{if $row.key == null}{-$row.key}{/if}`
def fallbackBlock : Statement :=
  .choose [⟨.binary (.numbered 7) .equals rowKey (.null (.numbered 6)), [.print negatedKey [] .nowhere], .nowhere⟩] none
    .nowhere

theorem unfolded_alike_fallback :
    Log.AlikeOn negatedKey (fallbackTag.check (.builtin .v2_4) recordScope).log
        (fallbackBlock.check (.builtin .v2_4) recordScope).log ∧
      (fallbackTag.check (.builtin .v2_4) recordScope).log.typeOf 3 = some .null ∧
      ((fallbackTag.check (.builtin .v2_4) recordScope).log.reportedIn negatedKey).map Diagnostic.node = [some 4] :=
  ⟨unfolded_alike (.builtin .v2_4) recordScope .afterOrElse (by decide) (by decide), by decide +kernel, by decide +kernel⟩

end Statement
end TypedTemplate
