import TypedTemplate.Proofs.Expr.Normal
import TypedTemplate.Proofs.Statement.Kept
import TypedTemplate.Session

namespace TypedTemplate

open Ty (Kept)

structure Signature.Normal (signature : Signature) : Prop where
  params : ∀ param ∈ signature.params, param.Normal
  result : ∀ type, signature.result = .fixed type → type.Normal

structure Context.Normal (context : Context) : Prop where
  named : ∀ {name : String} {type : Ty}, context.typeNamed name = some type → type.Normal
  signature : ∀ {name : String} {signature : Signature}, context.signature name = some signature → signature.Normal

theorem Context.Regular.normal {context : Context} (regular : context.Regular) : context.Normal where
  named := regular.named
  signature found := by
    have signature := regular.signature found
    refine ⟨signature.params, fun type shape => ?_⟩
    have result := signature.result
    rw [shape] at result
    exact result

namespace Context.Normal

variable {context : Context} (normal : context.Normal)
include normal

theorem keeps : context.Keeps Ty.Normal := fun named _ types _ =>
  Signature.resultType_normal (normal.signature named).result types

theorem stands (typeExpr : TypeExpr) : typeExpr.StandsAmong context.typeNamed Ty.Normal := fun _ resolved =>
  typeExpr.resolve_normal (fun _ _ => normal.named) resolved

theorem checkBlock {scope : Scope} (each : scope.Each Ty.Normal) (body : List Statement) :
    (Statement.checkBlock context scope body).Kept Ty.Normal :=
  Statement.checkBlock_kept Kept.normals normal.keeps body each (fun typeExpr _ => normal.stands typeExpr)
    (.inl .unknown)

end Context.Normal

structure Run where
  session : Session
  answers : List Ty
  told : List Constraints

namespace Run

def start : Run := ⟨.start, [], []⟩

-- One step of checking piece by piece. Nothing is assumed but what a condition told.
inductive Transition (context : Context) (run : Run) : Run → Prop where
  | checkTemplate (template : Template) :
    Transition context run { run with session := run.session.checkTemplate context template }
  | checkBlock (body : List Statement) :
    Transition context run { run with session := run.session.checkBlock context body }
  | infer (expr : Expr) :
    Transition context run
      { run with session := (run.session.infer context expr).2
                 answers := (run.session.infer context expr).1 :: run.answers }
  | refine (condition : Expr) :
    Transition context run
      { run with told := (run.session.refine context condition).whenTrue ::
                   (run.session.refine context condition).whenFalse :: run.told }
  | assume (constraints : Constraints) (obtained : constraints ∈ run.told) :
    Transition context run { run with session := run.session.assume constraints }
  | enter : Transition context run { run with session := run.session.enter }
  | exitTo (depth : Nat) : Transition context run { run with session := run.session.exitTo depth }

inductive Reached (context : Context) : Run → Prop where
  | start : Reached context .start
  | step {run next : Run} (path : Reached context run) (transition : Transition context run next) : Reached context next

structure Normal (run : Run) : Prop where
  recorded : ∀ entry ∈ run.session.log.types, entry.2.Normal
  scope : run.session.scope.Normal
  answers : ∀ type ∈ run.answers, type.Normal
  told : ∀ constraints ∈ run.told, ∀ entry ∈ constraints, entry.2.Normal

theorem start_normal : start.Normal := ⟨nofun, .empty, nofun, nofun⟩

theorem checked_normal {run : Run} (normal : run.Normal) {checked : Checked} (kept : checked.Kept Ty.Normal) :
    Normal { run with session := ⟨checked.scope, run.session.log ++ checked.log⟩ } where
  recorded := Log.Each.append normal.recorded kept.recorded
  scope := Scope.normal_iff.mpr kept.scope
  answers := normal.answers
  told := normal.told

theorem transition_normal {context : Context} (regular : context.Normal) {run next : Run} (normal : run.Normal)
    (transition : Transition context run next) : next.Normal := by
  have each := normal.scope.each
  cases transition with
  | checkTemplate template => exact checked_normal normal (regular.checkBlock .empty template.body)
  | checkBlock body => exact checked_normal normal (regular.checkBlock each body)
  | infer expr =>
    have typed := Expr.infer_kept Kept.normals regular.keeps expr each (.inl .unknown)
    exact ⟨Log.Each.append normal.recorded typed.recorded, normal.scope,
      List.forall_mem_cons.mpr ⟨typed.type, normal.answers⟩, normal.told⟩
  | refine condition =>
    have known := Expr.told_kept Kept.normals normal.recorded context.version.isModern condition
    refine ⟨normal.recorded, normal.scope, normal.answers, ?_⟩
    rw [List.forall_mem_cons, List.forall_mem_cons]
    exact ⟨known.1, known.2, normal.told⟩
  | assume constraints obtained =>
    exact ⟨normal.recorded, normal.scope.assume (normal.told constraints obtained), normal.answers, normal.told⟩
  | enter => exact ⟨normal.recorded, normal.scope.enter, normal.answers, normal.told⟩
  | exitTo depth => exact ⟨normal.recorded, Scope.normal_iff.mpr (each.exitTo depth), normal.answers, normal.told⟩

theorem reached_normal {context : Context} (regular : context.Normal) {run : Run} (path : Reached context run) :
    run.Normal := by
  induction path with
  | start => exact start_normal
  | step path transition ih => exact transition_normal regular ih transition

section

-- An optional `x: int|list<string>|null`, then `$x` as a condition, then a block where it holds.
def optionalX : Statement :=
  .param "x" .optional (.union [.named "int" .nowhere, .generic "list" [.named "string" .nowhere] .nowhere,
    .named "null" .nowhere]) .nowhere

def bareX : Expr := .var (.numbered 0) "x"

def declaredRun : Run := { start with session := Session.start.checkBlock (.builtin .v2_4) [optionalX] }

def typedRun : Run :=
  { declaredRun with session := (declaredRun.session.infer (.builtin .v2_4) bareX).2
                     answers := [(declaredRun.session.infer (.builtin .v2_4) bareX).1] }

def knownX : Refinements := typedRun.session.refine (.builtin .v2_4) bareX

def toldRun : Run := { typedRun with told := [knownX.whenTrue, knownX.whenFalse] }

def narrowedRun : Run := { toldRun with session := toldRun.session.enter.assume knownX.whenTrue }

theorem reached_normal_narrowedRun :
    (Context.builtin .v2_4).Normal ∧ Reached (.builtin .v2_4) narrowedRun ∧
      narrowedRun.answers = [.union [.null, .int, .list .string]] ∧
      narrowedRun.session.scope.typeOf (.bare "x") = some (.union [.int, .list .string]) ∧ narrowedRun.Normal := by
  have regular := (Context.builtin_regular .v2_4).normal
  have typed : Reached (.builtin .v2_4) typedRun := .step (.step .start (.checkBlock [optionalX])) (.infer bareX)
  have told : Reached (.builtin .v2_4) toldRun := .step typed (.refine bareX)
  have path : Reached (.builtin .v2_4) narrowedRun :=
    .step (.step told .enter) (.assume knownX.whenTrue List.mem_cons_self)
  exact ⟨regular, path, by decide +kernel, by decide +kernel, reached_normal regular path⟩

end
end Run
end TypedTemplate
