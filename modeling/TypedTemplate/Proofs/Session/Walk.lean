import TypedTemplate.Proofs.Expr.Formula
import TypedTemplate.Proofs.Statement.Frame
import TypedTemplate.Session

namespace TypedTemplate.Session

open TypedTemplate.Expr (judged literalType callType varType narrowedPath access indexKey unaryType binaryType)

-- Checking in place: one scope is changed from part to part, and a block that is opened
-- for a part is closed again at the depth where it was opened.

def add (session : Session) (log : Log) : Session := { session with log := session.log ++ log }

def declare (session : Session) (symbol : Symbol) (position : Position) : Session :=
  match session.scope.declare symbol with
  | .ok scope => { session with scope }
  | .error fault => session.report ⟨fault, position, none⟩

def record (session : Session) (node : Node) (verdict : Verdict) : Ty × Session :=
  (verdict.type, session.add ⟨[(node.id, verdict.type)], verdict.diagnostics⟩)

def inBlock (session : Session) (inner : Session → Session) : Session :=
  (inner session.enter).exitTo session.scope.depth

def typeUnder (session : Session) (constraints : Constraints) (inner : Session → Ty × Session) : Ty × Session :=
  let typed := inner (session.enter.assume constraints)
  (typed.1, typed.2.exitTo session.scope.depth)

def rightConstraints? (context : Context) (session : Session) (operator : BinaryOperator) (left : Expr) (type : Ty) :
    Option Constraints :=
  match operator with
  | .and => some (session.refine context left).whenTrue
  | .or => some (session.refine context left).whenFalse
  | .orElse =>
    match left.refKey? with
    | some key => if type.isNullable then some [(key, .null)] else none
    | none => none
  | _ => none

mutual
def walk (context : Context) (session : Session) : Expr → Ty × Session
  | .null node => session.record node (judged node (.ok .null))
  | .bool node _ => session.record node (judged node (.ok .bool))
  | .int node _ => session.record node (judged node (.ok .int))
  | .float node _ => session.record node (judged node (.ok .float))
  | .string node _ => session.record node (judged node (.ok .string))
  | .list node items =>
    let parts := walkAll context session items
    parts.2.record node (judged node (.ok (.list (.unionOf parts.1))))
  | .map node entries =>
    let parts := walkEntries context session entries
    parts.2.record node (literalType (entries.map Prod.fst) (parts.1.map Prod.fst) (parts.1.map Prod.snd))
  | .var node name => session.record node (judged node (varType session.scope name))
  | .field node base name nullSafe =>
    let part := walk context session base
    part.2.record node (judged node
      (match (Expr.field node base name nullSafe).refKey?.bind (narrowedPath part.2.scope) with
        | some narrowed => .ok narrowed
        | none => access part.1 (.field name) nullSafe))
  | .index node base key nullSafe =>
    let part := walk context session base
    let keyPart := walk context part.2 key
    keyPart.2.record node (judged node (access part.1 (indexKey part.1 key keyPart.1) nullSafe))
  | .unary node operator operand =>
    let part := walk context session operand
    part.2.record node (judged node (unaryType context.version.isModern operator part.1))
  | .binary node operator left right =>
    let leftPart := walk context session left
    let rightPart :=
      match rightConstraints? context leftPart.2 operator left leftPart.1 with
      | some constraints => leftPart.2.typeUnder constraints fun inner => walk context inner right
      | none => walk context leftPart.2 right
    rightPart.2.record node (judged node (binaryType context.version.isModern operator leftPart.1 rightPart.1))
  | .conditional node condition thenValue elseValue =>
    let part := walk context session condition
    let known := part.2.refine context condition
    let thenPart := part.2.typeUnder known.whenTrue fun inner => walk context inner thenValue
    let elsePart := thenPart.2.typeUnder known.whenFalse fun inner => walk context inner elseValue
    elsePart.2.record node (judged node (.ok (thenPart.1.join elsePart.1)))
  | .call node name args =>
    let parts := walkAll context session args
    parts.2.record node (callType context node name args parts.1)

def walkAll (context : Context) (session : Session) : List Expr → List Ty × Session
  | [] => ([], session)
  | expr :: rest =>
    let first := walk context session expr
    let others := walkAll context first.2 rest
    (first.1 :: others.1, others.2)

def walkEntries (context : Context) (session : Session) : List (Expr × Expr) → List (Ty × Ty) × Session
  | [] => ([], session)
  | (key, value) :: rest =>
    let keyPart := walk context session key
    let valuePart := walk context keyPart.2 value
    let others := walkEntries context valuePart.2 rest
    ((keyPart.1, valuePart.1) :: others.1, others.2)
end

-- The branches of a chain share a block, in which the conditions that failed are known.
mutual
def perform (context : Context) (session : Session) : Statement → Session
  | .text _ _ => session
  | .print expr _ _ => (session.walk context expr).2
  | .param name kind typeExpr span =>
    match typeExpr.resolve context.typeNamed with
    | .ok type => session.declare ⟨name, Statement.ofParam kind, type⟩ span.start
    | .error diagnostic => (session.report diagnostic).declare ⟨name, Statement.ofParam kind, .unknown⟩ span.start
  | .letValue name value span =>
    let typed := session.walk context value
    typed.2.declare ⟨name, .localBinding, typed.1⟩ span.start
  | .letBlock name body span =>
    (session.inBlock fun inner => performBlock context inner body).declare ⟨name, .localBinding, .string⟩ span.start
  | .choose branches otherwise _ =>
    session.inBlock fun inner =>
      let tried := performBranches context inner branches
      match otherwise with
      | none => tried
      | some body => tried.inBlock fun inner => performBlock context inner body
  | .foreach name iterable body ifEmpty span =>
    let typed := session.walk context iterable
    let var := Statement.loopVar iterable typed.1
    let looped := (typed.2.add ⟨[], var.2⟩).inBlock fun inner =>
      performBlock context (inner.declare ⟨name, .localBinding, var.1⟩ span.start) body
    match ifEmpty with
    | none => looped
    | some body => looped.inBlock fun inner => performBlock context inner body

def performBlock (context : Context) (session : Session) : List Statement → Session
  | [] => session
  | statement :: rest => performBlock context (perform context session statement) rest

def performBranches (context : Context) (session : Session) : List (Branch (List Statement)) → Session
  | [] => session
  | ⟨condition, body, _⟩ :: rest =>
    let tested := (session.walk context condition).2
    let known := tested.refine context condition
    let tried := tested.inBlock fun inner => performBlock context (inner.assume known.whenTrue) body
    performBranches context (tried.assume known.whenFalse) rest
end

theorem exitTo_scope {scope : Scope} {inner : Session} (same : inner.scope.outer = scope.frames) :
    inner.exitTo scope.depth = ⟨scope, inner.log⟩ := by
  have depth : inner.scope.depth - max scope.depth 1 = 1 := by
    simp only [Scope.depth, same, Scope.frames, List.length_cons]
    omega
  have left : inner.scope.leave = scope := by
    obtain ⟨⟨current, outer⟩, log⟩ := inner
    subst same
    rfl
  rw [exitTo, Scope.exitTo, depth]
  exact congrArg (Session.mk · inner.log) left

theorem add_add (session : Session) (earlier later : Log) :
    (session.add earlier).add later = session.add (earlier ++ later) := by
  simp only [add, Log.append_assoc]

theorem scope_add (session : Session) (log : Log) : (session.add log).scope = session.scope := rfl

theorem record_add (session : Session) (parts : Log) (node : Node) (verdict : Verdict) :
    (session.add parts).record node verdict =
      ((Expr.settle node parts verdict).type, session.add (Expr.settle node parts verdict).log) := by
  rw [record, add_add, Expr.settle]

theorem refine_add (context : Context) (session : Session) (condition : Expr) (scope : Scope) :
    (session.add (condition.infer context scope).log).refine context condition =
      condition.refine (condition.infer context scope).log.typeOf context.version.isModern :=
  Expr.refine_congr _ _ fun _ inside => Log.typeOf_append_right (Expr.mem_numbers_infer.mpr inside)

theorem typeUnder_add {context : Context} {expr : Expr} (part : ∀ session : Session, session.walk context expr =
    ((expr.infer context session.scope).type, session.add (expr.infer context session.scope).log))
    (session : Session) (constraints : Constraints) :
    session.typeUnder constraints (fun inner => walk context inner expr) =
      ((expr.infer context (session.scope.under constraints)).type,
        session.add (expr.infer context (session.scope.under constraints)).log) := by
  rw [typeUnder, part]
  exact congrArg (Prod.mk _) (exitTo_scope (Scope.assume_outer session.scope.enter constraints))

theorem rightScope_eq (context : Context) (session : Session) (operator : BinaryOperator) (left : Expr) :
    let typed := left.infer context session.scope
    Expr.rightScope context.version.isModern session.scope operator left typed =
      match rightConstraints? context (session.add typed.log) operator left typed.type with
      | some constraints => session.scope.under constraints
      | none => session.scope := by
  intro typed
  have known := refine_add context session left session.scope
  unfold Expr.rightScope rightConstraints?
  cases operator with
  | and | or => simp only [typed, known]
  | orElse =>
    cases left.refKey? with
    | none => rfl
    | some key => cases nullable : typed.type.isNullable <;> simp
  | _ => rfl

theorem rightOperand_add (context : Context) (session : Session) (operator : BinaryOperator) (left right : Expr)
    (operand : ∀ session : Session, session.walk context right =
      ((right.infer context session.scope).type, session.add (right.infer context session.scope).log)) :
    let typed := left.infer context session.scope
    let typed' := right.infer context (Expr.rightScope context.version.isModern session.scope operator left typed)
    (match rightConstraints? context (session.add typed.log) operator left typed.type with
      | some constraints => (session.add typed.log).typeUnder constraints fun inner => walk context inner right
      | none => walk context (session.add typed.log) right) = (typed'.type, session.add (typed.log ++ typed'.log)) := by
  intro typed typed'
  simp only [typed', typed, rightScope_eq, ← add_add]
  split
  · exact typeUnder_add operand _ _
  · exact operand _

-- Expressions have the same types when they are typed in place, and nothing that was
-- opened on the way to them is open afterwards.
mutual
theorem walk_add (context : Context) : ∀ (expr : Expr) (session : Session), session.walk context expr =
    ((expr.infer context session.scope).type, session.add (expr.infer context session.scope).log)
  | .null _, _ | .bool _ _, _ | .int _ _, _ | .float _ _, _ | .string _ _, _ | .var _ _, _ => by
    rw [walk, record, Expr.infer, Expr.settle]
    rfl
  | .list node items, session => by
    rw [walk, walkAll_add context items session, record_add, Expr.infer]
  | .map node entries, session => by
    rw [walk, walkEntries_add context entries session, record_add, Expr.infer]
    simp only [List.map_map, Function.comp_def]
  | .field node base name nullSafe, session => by
    rw [walk, walk_add context base session, Expr.infer]
    exact record_add ..
  | .index node base key nullSafe, session => by
    simp only [walk, walk_add context base session, walk_add context key, scope_add, add_add, record_add, Expr.infer]
  | .unary node operator operand, session => by
    rw [walk, walk_add context operand session, record_add, Expr.infer]
  | .binary node operator left right, session => by
    rw [walk, walk_add context left session]
    simp only [rightOperand_add context session operator left right (walk_add context right), record_add, Expr.infer]
  | .conditional node condition thenValue elseValue, session => by
    simp only [walk, walk_add context condition session, refine_add, typeUnder_add (walk_add context thenValue),
      typeUnder_add (walk_add context elseValue), scope_add, add_add, record_add, Expr.infer]
  | .call node name args, session => by
    rw [walk, walkAll_add context args session, record_add, Expr.infer]

theorem walkAll_add (context : Context) : ∀ (exprs : List Expr) (session : Session), session.walkAll context exprs =
    ((Expr.inferAll context session.scope exprs).map Typed.type,
      session.add (.concat ((Expr.inferAll context session.scope exprs).map Typed.log)))
  | [], session => by simp only [walkAll, Expr.inferAll, List.map_nil, Log.concat, add, Log.append_empty]
  | expr :: rest, session => by
    simp only [walkAll, walk_add context expr session, walkAll_add context rest, scope_add, add_add, Expr.inferAll,
      List.map_cons, Log.concat]

theorem walkEntries_add (context : Context) : ∀ (entries : List (Expr × Expr)) (session : Session),
    session.walkEntries context entries =
      ((Expr.inferEntries context session.scope entries).map fun part => (part.1.type, part.2.type),
        session.add (.concat ((Expr.inferEntries context session.scope entries).map fun part => part.1.log ++ part.2.log)))
  | [], session => by simp only [walkEntries, Expr.inferEntries, List.map_nil, Log.concat, add, Log.append_empty]
  | (key, value) :: rest, session => by
    simp only [walkEntries, walk_add context key session, walk_add context value, walkEntries_add context rest, scope_add,
      add_add, Expr.inferEntries, List.map_cons, Log.concat, Log.append_assoc]
end

theorem declare_add (session : Session) (symbol : Symbol) (position : Position) (log : Log) :
    let checked := Statement.declare session.scope symbol position log
    (session.add log).declare symbol position = ⟨checked.scope, session.log ++ checked.log⟩ := by
  unfold declare Statement.declare
  rw [scope_add]
  cases session.scope.declare symbol with
  | ok scope => rfl
  | error fault => exact congrArg (Session.mk _) (Log.append_assoc ..)

theorem inBlock_add {session : Session} {inner : Session → Session} {checked : Checked}
    (same : inner session.enter = ⟨checked.scope, session.log ++ checked.log⟩)
    (outer : checked.scope.outer = session.scope.frames) : session.inBlock inner = session.add checked.log := by
  rw [inBlock, same]
  exact exitTo_scope outer

theorem body_add {context : Context} {body : List Statement}
    (block : ∀ session : Session, session.performBlock context body = session.checkBlock context body)
    (session : Session) (constraints : Constraints) :
    (session.inBlock fun inner => performBlock context (inner.assume constraints) body) =
      session.add (Statement.checkBlock context (session.scope.under constraints) body).log :=
  inBlock_add (block (session.enter.assume constraints)) ((Statement.checkBlock_grows context body _).1.trans
    (Scope.assume_outer session.scope.enter constraints))

def performOptional (context : Context) (session : Session) : Option (List Statement) → Session
  | none => session
  | some body => session.inBlock fun inner => performBlock context inner body

theorem perform_choose (context : Context) (session : Session) (branches : List (Branch (List Statement)))
    (otherwise : Option (List Statement)) (span : Span) : session.perform context (.choose branches otherwise span) =
      session.inBlock fun inner => (inner.performBranches context branches).performOptional context otherwise := by
  cases otherwise <;> rw [perform] <;> rfl

theorem perform_foreach (context : Context) (session : Session) (name : String) (iterable : Expr)
    (body : List Statement) (ifEmpty : Option (List Statement)) (span : Span) :
    let typed := session.walk context iterable
    let var := Statement.loopVar iterable typed.1
    session.perform context (.foreach name iterable body ifEmpty span) =
      ((typed.2.add ⟨[], var.2⟩).inBlock fun inner =>
        performBlock context (inner.declare ⟨name, .localBinding, var.1⟩ span.start) body).performOptional context
          ifEmpty := by
  cases ifEmpty <;> rw [perform] <;> rfl

theorem loop_add {context : Context} {body : List Statement}
    (block : ∀ session : Session, session.performBlock context body = session.checkBlock context body)
    (session : Session) (name : String) (iterable : Expr) (span : Span) :
    let typed := iterable.infer context session.scope
    let var := Statement.loopVar iterable typed.type
    let opened := Statement.openLoop context session.scope name iterable span
    (((session.add typed.log).add ⟨[], var.2⟩).inBlock fun inner =>
        performBlock context (inner.declare ⟨name, .localBinding, var.1⟩ span.start) body) =
      session.add (opened.log ++ (Statement.checkBlock context opened.scope body).log) := by
  intro typed var opened
  have declared := declare_add (session.add typed.log).enter ⟨name, .localBinding, var.1⟩ span.start ⟨[], var.2⟩
  have entered : ((session.add typed.log).add ⟨[], var.2⟩).enter.declare ⟨name, .localBinding, var.1⟩ span.start =
      ⟨opened.scope, session.log ++ opened.log⟩ := by
    refine declared.trans (congrArg (Session.mk opened.scope) ?_)
    exact Log.append_assoc ..
  have outer : (Statement.checkBlock context opened.scope body).scope.outer = session.scope.frames :=
    (Statement.checkBlock_grows context body opened.scope).1.trans (Statement.openLoop_outer context session.scope ..)
  rw [inBlock, entered, block, checkBlock, Log.append_assoc]
  exact exitTo_scope outer

section Statement

open Statement (check checkBranches checkOptional openLoop check_choose check_foreach checkBlock_grows checkBranches_outer)

mutual
theorem perform_eq_check (context : Context) : ∀ (statement : Statement) (session : Session),
    session.perform context statement =
      ⟨(statement.check context session.scope).scope, session.log ++ (statement.check context session.scope).log⟩
  | .text _ _, session => by
    rw [perform, check, Log.append_empty]
  | .print expr _ _, session => by
    rw [perform, walk_add, check]
    rfl
  | .param name kind typeExpr span, session => by
    rw [perform, check]
    cases typeExpr.resolve context.typeNamed with
    | ok type =>
      have declared := declare_add session ⟨name, Statement.ofParam kind, type⟩ span.start .empty
      rw [add, Log.append_empty] at declared
      exact declared
    | error diagnostic => exact declare_add session ⟨name, Statement.ofParam kind, .unknown⟩ span.start ⟨[], [diagnostic]⟩
  | .letValue name value span, session => by
    rw [perform, walk_add, check]
    exact declare_add ..
  | .letBlock name body span, session => by
    rw [perform, inBlock_add (performBlock_eq_checkBlock context body session.enter) (checkBlock_grows context body _).1,
      check]
    exact declare_add ..
  | .choose branches otherwise span, session => by
    rw [perform_choose, check_choose]
    refine @inBlock_add session _ ⟨(checkBranches context session.scope.enter branches).scope, _⟩ ?_
      (checkBranches_outer context branches session.scope.enter)
    simp only [performBranches_eq_checkBranches context branches, ← Log.append_assoc]
    exact performOptional_add context otherwise _
  | .foreach name iterable body ifEmpty span, session => by
    have looped := loop_add (performBlock_eq_checkBlock context body) session name iterable span
    simp only [perform_foreach, check_foreach, walk_add, looped, performOptional_add context ifEmpty]
    exact add_add ..

theorem performBlock_eq_checkBlock (context : Context) : ∀ (body : List Statement) (session : Session),
    session.performBlock context body = session.checkBlock context body
  | [], session => by
    rw [performBlock, checkBlock, Statement.checkBlock, Log.append_empty]
  | statement :: rest, session => by
    rw [performBlock, perform_eq_check context statement session, performBlock_eq_checkBlock context rest, checkBlock,
      checkBlock, Statement.checkBlock, Log.append_assoc]

theorem performBranches_eq_checkBranches (context : Context) : ∀ (branches : List (Branch (List Statement)))
    (session : Session), session.performBranches context branches =
      ⟨(checkBranches context session.scope branches).scope,
        session.log ++ (checkBranches context session.scope branches).log⟩
  | [], session => by
    rw [performBranches, checkBranches, Log.append_empty]
  | ⟨condition, body, _⟩ :: rest, session => by
    simp only [performBranches, walk_add, refine_add, body_add (performBlock_eq_checkBlock context body),
      performBranches_eq_checkBranches context rest, Statement.checkBranches]
    simp only [assume, add, Log.append_assoc]

theorem performOptional_add (context : Context) : ∀ (body : Option (List Statement)) (session : Session),
    session.performOptional context body = session.add (checkOptional context session.scope body)
  | none, session => by rw [performOptional, checkOptional, add, Log.append_empty]
  | some body, session => body_add (performBlock_eq_checkBlock context body) session []
end

end Statement

end TypedTemplate.Session
