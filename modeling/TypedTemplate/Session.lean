import TypedTemplate.SourceFile

namespace TypedTemplate

-- Checking piece by piece: the scope that earlier pieces left, and all that was found.
structure Session where
  scope : Scope
  log : Log

namespace Session

def start : Session := ⟨.empty, .empty⟩

def report (session : Session) (diagnostic : Diagnostic) : Session :=
  { session with log := session.log ++ ⟨[], [diagnostic]⟩ }

def infer (context : Context) (session : Session) (expr : Expr) : Ty × Session :=
  let typed := expr.infer context session.scope
  (typed.type, { session with log := session.log ++ typed.log })

def refine (context : Context) (session : Session) (condition : Expr) : Refinements :=
  condition.refine session.log.typeOf context.version.isModern

def assume (session : Session) (constraints : Constraints) : Session :=
  { session with scope := session.scope.assume constraints }

def checkBlock (context : Context) (session : Session) (body : List Statement) : Session :=
  let checked := Statement.checkBlock context session.scope body
  ⟨checked.scope, session.log ++ checked.log⟩

-- A template knows nothing of what was declared before it.
def checkTemplate (context : Context) (session : Session) (template : Template) : Session :=
  checkBlock context { session with scope := .empty } template.body

def enter (session : Session) : Session := { session with scope := session.scope.enter }

def exitTo (session : Session) (depth : Nat) : Session := { session with scope := session.scope.exitTo depth }

end Session
end TypedTemplate
