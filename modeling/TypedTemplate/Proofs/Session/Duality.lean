import TypedTemplate.Proofs.Expr.Findings
import TypedTemplate.Proofs.Expr.Formula
import TypedTemplate.Session

namespace TypedTemplate

-- "Not both" is "either not": what the two say of the references is the same, for the
-- right side is reached with the same knowledge.
theorem Formula.evidence_not_both (context : Context) (scope : Scope) (left right : Formula) :
    (negation (both left right)).evidence context scope =
      (either (negation left) (negation right)).evidence context scope := rfl

theorem Formula.evidence_not_either (context : Context) (scope : Scope) (left right : Formula) :
    (negation (either left right)).evidence context scope =
      (both (negation left) (negation right)).evidence context scope := rfl

theorem Log.TypesAlike.after {a b : Log} {terms : List Expr} (alike : a.TypesAlike b terms) (earlier : Log) :
    (earlier ++ a).TypesAlike (earlier ++ b) terms := by
  intro term listed
  obtain ⟨type, found, found'⟩ := alike term listed
  refine ⟨type, ?_, ?_⟩
  · rw [typeOf_append, found]
    rfl
  · rw [typeOf_append, found']
    rfl

namespace Expr

open Log

inductive Duals : BinaryOperator → BinaryOperator → Prop
  | both : Duals .and .or
  | either : Duals .or .and

variable (context : Context) (scope : Scope)

def conditionType (modern : Bool) (sides : Ty) : Ty := if modern then .bool else sides

theorem infer_negation (node : Node) (operand : Expr) : (unary node .not operand).infer context scope =
    settle node (operand.infer context scope).log
      ⟨conditionType context.version.isModern (operand.infer context scope).type, []⟩ := by
  rw [infer]
  rfl

theorem infer_connective {operator : BinaryOperator} (connects : operator = .and ∨ operator = .or) {left : Expr}
    {known : Scope} (reached : rightScope context.version.isModern scope operator left (left.infer context scope) = known)
    (node : Node) (right : Expr) : (binary node operator left right).infer context scope =
      settle node ((left.infer context scope).log ++ (right.infer context known).log)
        ⟨conditionType context.version.isModern ((left.infer context scope).type.join (right.infer context known).type), []⟩ := by
  subst reached
  rw [infer]
  rcases connects with rfl | rfl <;> rfl

theorem conditionType_not (modern : Bool) (left right : Ty) :
    conditionType modern (conditionType modern (left.join right)) =
      conditionType modern ((conditionType modern left).join (conditionType modern right)) := by
  cases modern <;> rfl

namespace Duals

variable {operator other : BinaryOperator} {left right : Expr} {whole whole' inner first second : Node}

theorem connects (duals : Duals operator other) :
    (operator = .and ∨ operator = .or) ∧ (other = .and ∨ other = .or) := by
  cases duals with
  | both => exact ⟨.inl rfl, .inr rfl⟩
  | either => exact ⟨.inr rfl, .inl rfl⟩

theorem evidence (duals : Duals operator other) (modern : Bool) :
    ((unary whole .not (binary inner operator left right)).formula modern).evidence context scope =
      ((binary whole' other (unary first .not left) (unary second .not right)).formula modern).evidence context scope := by
  cases duals with
  | both =>
    simp only [formula]
    exact Formula.evidence_not_both context scope _ _
  | either =>
    simp only [formula]
    exact Formula.evidence_not_either context scope _ _

theorem rightScope (duals : Duals operator other) (distinct : (unary first .not left).ids.Nodup) :
    Expr.rightScope context.version.isModern scope other (unary first .not left)
        ((unary first .not left).infer context scope) =
      Expr.rightScope context.version.isModern scope operator left (left.infer context scope) := by
  have known := refine_infer context left scope (distinct_unary distinct)
  have negated := refine_infer context (unary first .not left) scope distinct
  rw [formula, Formula.evidence] at negated
  cases duals with
  | both | either => rw [Expr.rightScope, Expr.rightScope, known, negated]; rfl

-- Both forms type their sides once and in the same scopes. What comes besides is nothing
-- that is reported, and about other expressions.
theorem findings (duals : Duals operator other)
    (distinct : (unary whole .not (binary inner operator left right)).ids.Nodup)
    (distinct' : (binary whole' other (unary first .not left) (unary second .not right)).ids.Nodup) :
    let plain := (unary whole .not (binary inner operator left right)).infer context scope
    let moved := (binary whole' other (unary first .not left) (unary second .not right)).infer context scope
    plain.type = moved.type ∧ plain.log.TypesAlike moved.log (left.subterms ++ right.subterms) ∧
      plain.log.diagnostics = moved.log.diagnostics := by
  intro plain moved
  obtain ⟨connects, connects'⟩ := duals.connects
  have shown := infer_negation context scope whole (binary inner operator left right)
  have shown' := infer_connective context scope connects' (duals.rightScope context scope (distinct_binary distinct').1)
    whole' (unary second .not right)
  rw [infer_connective context scope connects rfl] at shown
  rw [infer_negation, infer_negation] at shown'
  have unique : plain.log.numbers.Nodup := numbers_infer_nodup distinct
  have unique' : moved.log.numbers.Nodup := numbers_infer_nodup distinct'
  generalize Expr.rightScope context.version.isModern scope operator left (left.infer context scope) = known at shown shown'
  have typed : ∀ term ∈ left.subterms ++ right.subterms,
      term.id ∈ ((left.infer context scope).log ++ (right.infer context known).log).numbers := by
    intro term listed
    rw [numbers_append, List.mem_append, mem_numbers_infer, mem_numbers_infer]
    rcases List.mem_append.mp listed with inside | inside
    · exact .inr (List.mem_map_of_mem inside)
    · exact .inl (List.mem_map_of_mem inside)
  simp only [plain, moved, shown, shown', settle] at unique unique' ⊢
  refine ⟨conditionType_not _ _ _, ?_, ?_⟩
  · refine .trans (.symm (.of_subset (fun entry found => ?_) unique typed)) (.of_subset (fun entry found => ?_) unique' typed)
    · exact mem_types_append.mpr (.inl (mem_types_append.mpr (.inl found)))
    · simp only [mem_types_append] at found ⊢
      exact .inl (found.imp .inl .inl)
  · simp only [diagnostics_append, List.append_nil]

end Duals

end Expr

namespace Session

structure Interchangeable (context : Context) (session : Session) (parts : List Expr) (plain moved : Expr) : Prop where
  type : (session.infer context plain).1 = (session.infer context moved).1
  known : (session.infer context plain).2.refine context plain = (session.infer context moved).2.refine context moved
  types : (session.infer context plain).2.log.TypesAlike (session.infer context moved).2.log parts
  diagnostics : (session.infer context plain).2.log.diagnostics = (session.infer context moved).2.log.diagnostics

variable (context : Context) (session : Session)

theorem refine_infer {condition : Expr} (distinct : condition.ids.Nodup) :
    (session.infer context condition).2.refine context condition =
      (condition.formula context.version.isModern).evidence context session.scope :=
  Expr.refine_of_recorded condition session.scope
    (Expr.formula_recorded context condition session.scope _ distinct fun _ inside =>
      Log.typeOf_append_right (Expr.mem_numbers_infer.mpr inside))

theorem interchangeable_of_duals {operator other : BinaryOperator} (duals : Expr.Duals operator other) {left right : Expr}
    {whole whole' inner first second : Node}
    (distinct : (Expr.unary whole .not (.binary inner operator left right)).ids.Nodup)
    (distinct' : (Expr.binary whole' other (.unary first .not left) (.unary second .not right)).ids.Nodup) :
    Interchangeable context session (left.subterms ++ right.subterms) (.unary whole .not (.binary inner operator left right))
      (.binary whole' other (.unary first .not left) (.unary second .not right)) := by
  obtain ⟨type, types, diagnostics⟩ := duals.findings context session.scope distinct distinct'
  refine ⟨type, ?_, types.after session.log, congrArg (session.log.diagnostics ++ ·) diagnostics⟩
  rw [refine_infer context session distinct, refine_infer context session distinct']
  exact duals.evidence context session.scope _

-- A negation may be moved to the sides of `and` and of `or`, if these are exchanged: the
-- type is the same and so is what the condition tells, the parts have the types they had,
-- and what is wrong with them is the same.
theorem negation_distributes (left right : Expr) (whole whole' inner first second : Node) :
    (let plain := Expr.unary whole .not (.binary inner .and left right)
      let moved := Expr.binary whole' .or (.unary first .not left) (.unary second .not right)
      plain.ids.Nodup → moved.ids.Nodup →
        Interchangeable context session (left.subterms ++ right.subterms) plain moved) ∧
      let plain := Expr.unary whole .not (.binary inner .or left right)
      let moved := Expr.binary whole' .and (.unary first .not left) (.unary second .not right)
      plain.ids.Nodup → moved.ids.Nodup →
        Interchangeable context session (left.subterms ++ right.subterms) plain moved :=
  ⟨interchangeable_of_duals context session .both, interchangeable_of_duals context session .either⟩

def boxSession : Session :=
  ⟨⟨⟨[⟨"box", .requiredParam, .nullable (.record [("size", .nullable .int)])⟩], []⟩, []⟩, .empty⟩

def box : Expr := .var (.numbered 0) "box"

def boxSize : Expr := .unary (.numbered 3) .negate (.field (.numbered 2) (.var (.numbered 1) "box") "size" false)

-- `not ($box and -$box.size)` and `not $box or not -$box.size`
def notBoth : Expr := .unary (.numbered 5) .not (.binary (.numbered 4) .and box boxSize)

def eitherNot : Expr := .binary (.numbered 8) .or (.unary (.numbered 6) .not box) (.unary (.numbered 7) .not boxSize)

-- `not ($box or -$box.size)` and `not $box and not -$box.size`
def notEither : Expr := .unary (.numbered 5) .not (.binary (.numbered 4) .or box boxSize)

def bothNot : Expr := .binary (.numbered 8) .and (.unary (.numbered 6) .not box) (.unary (.numbered 7) .not boxSize)

-- Where the box is there its size may be missing, so it has no negative. Where it is not
-- there it has no size.
theorem negation_distributes_box :
    let context : Context := .builtin .v2_4
    notBoth.ids.Nodup ∧ eitherNot.ids.Nodup ∧ notEither.ids.Nodup ∧ bothNot.ids.Nodup ∧
      Interchangeable context boxSession (box.subterms ++ boxSize.subterms) notBoth eitherNot ∧
      (boxSession.infer context notBoth).2.log.diagnostics.map Diagnostic.node = [some 3] ∧
      (boxSession.infer context notBoth).2.log.typeOf 2 = some (.nullable .int) ∧
      (boxSession.infer context notBoth).2.refine context notBoth =
        ⟨[], [(.bare "box", .record [("size", .nullable .int)])]⟩ ∧
      Interchangeable context boxSession (box.subterms ++ boxSize.subterms) notEither bothNot ∧
      (boxSession.infer context notEither).2.log.diagnostics.map Diagnostic.node = [some 2] := by
  intro context
  have distributes := negation_distributes context boxSession box boxSize
    (.numbered 5) (.numbered 8) (.numbered 4) (.numbered 6) (.numbered 7)
  have distinct : notBoth.ids.Nodup ∧ eitherNot.ids.Nodup ∧ notEither.ids.Nodup ∧ bothNot.ids.Nodup := by decide
  obtain ⟨plain, moved, plain', moved'⟩ := distinct
  exact ⟨plain, moved, plain', moved', distributes.1 plain moved, by decide +kernel, by decide +kernel, rfl,
    distributes.2 plain' moved', by decide +kernel⟩

end Session
end TypedTemplate
