import TypedTemplate.Expr.Infer
import TypedTemplate.Statement
import TypedTemplate.TypeExpr

namespace TypedTemplate

structure Checked where
  scope : Scope
  log : Log

namespace Statement

def ofParam : ParamKind → SymbolKind
  | .required => .requiredParam
  | .optional => .optionalParam
  | .injected => .injectedParam
  | .optionalInjected => .optionalInjectedParam

-- A name that the block has already keeps its first meaning.
def declare (scope : Scope) (symbol : Symbol) (position : Position) (log : Log) : Checked :=
  match scope.declare symbol with
  | .ok declared => ⟨declared, log⟩
  | .error fault => ⟨scope, log ++ ⟨[], [⟨fault, position, none⟩]⟩⟩

def loopVar (iterable : Expr) (type : Ty) : Ty × List Diagnostic :=
  match Ty.element type with
  | .ok element => (element, [])
  | .error fault => (.unknown, [Expr.blame iterable.node fault])

-- What is declared inside a block and known inside it ends with it. A branch of a
-- chain is checked knowing that its condition holds and all earlier ones do not.
mutual
def check (context : Context) (scope : Scope) : Statement → Checked
  | text _ _ => ⟨scope, .empty⟩
  | print expr _ _ => ⟨scope, (expr.infer context scope).log⟩
  | param name kind typeExpr span =>
    match typeExpr.resolve context.typeNamed with
    | .ok type => declare scope ⟨name, ofParam kind, type⟩ span.start .empty
    | .error diagnostic => declare scope ⟨name, ofParam kind, .unknown⟩ span.start ⟨[], [diagnostic]⟩
  | letValue name value span =>
    let typed := value.infer context scope
    declare scope ⟨name, .localBinding, typed.type⟩ span.start typed.log
  | letBlock name body span =>
    declare scope ⟨name, .localBinding, .string⟩ span.start (checkBlock context scope.enter body).log
  | choose branches otherwise _ =>
    let tried := checkBranches context scope.enter branches
    let last := match otherwise with
      | none => Log.empty
      | some body => (checkBlock context tried.scope.enter body).log
    ⟨scope, tried.log ++ last⟩
  | foreach name iterable body ifEmpty span =>
    let typed := iterable.infer context scope
    let var := loopVar iterable typed.type
    let opened := declare scope.enter ⟨name, .localBinding, var.1⟩ span.start ⟨[], var.2⟩
    let inner := checkBlock context opened.scope body
    let last := match ifEmpty with
      | none => Log.empty
      | some body => (checkBlock context scope.enter body).log
    ⟨scope, typed.log ++ opened.log ++ inner.log ++ last⟩

def checkBlock (context : Context) (scope : Scope) : List Statement → Checked
  | [] => ⟨scope, .empty⟩
  | statement :: rest =>
    let first := check context scope statement
    let others := checkBlock context first.scope rest
    ⟨others.scope, first.log ++ others.log⟩

-- The scope afterwards is where every condition of the chain has failed.
def checkBranches (context : Context) (scope : Scope) : List (Branch (List Statement)) → Checked
  | [] => ⟨scope, .empty⟩
  | ⟨condition, body, _⟩ :: rest =>
    let typed := condition.infer context scope
    let known := condition.refine typed.log.typeOf context.version.isModern
    let inner := checkBlock context (scope.under known.whenTrue) body
    let others := checkBranches context (scope.assume known.whenFalse) rest
    ⟨others.scope, typed.log ++ inner.log ++ others.log⟩
end

end Statement
end TypedTemplate
