import TypedTemplate.Proofs.Expr.Agreement
import TypedTemplate.Proofs.Session.Walk

namespace TypedTemplate

theorem Scope.agrees_of_narrowed {scope declared declared' : Scope} {symbol symbol' : Symbol}
    (same : symbol.name = symbol'.name) (opened : scope.declare symbol = .ok declared)
    (opened' : scope.declare symbol' = .ok declared') :
    declared.Agrees (declared'.enter.narrow (.bare symbol'.name) symbol.effective) := by
  constructor
  · intro name
    show declared.declares name ↔ declared'.declares name
    simp only [declares, lookup_declare opened, lookup_declare opened', same]
    by_cases own : name = symbol'.name <;> simp [own]
  · intro key
    have entered : declared'.enter.typeOf key = declared'.typeOf key := rfl
    rw [typeOf_narrow, entered, typeOf_declare opened, typeOf_declare opened', same]
    obtain ⟨root, path⟩ := key
    by_cases own : root = symbol'.name
    · subst own
      cases path <;> simp [RefKey.bare, RefKey.isBare]
    · simp [own, RefKey.bare]

namespace Session

-- Two sessions with the same answers about references and about expressions. They may have
-- different blocks open and may have reported different things.
structure Agrees (a b : Session) : Prop where
  scope : a.scope.Agrees b.scope
  typeOf : ∀ id, a.log.typeOf id = b.log.typeOf id

namespace Agrees

variable {a b : Session} (agree : a.Agrees b)
include agree

theorem add (found : Log) : (a.add found).Agrees (b.add found) := by
  refine ⟨agree.scope, ?_⟩
  intro id
  simp only [Session.add, Log.typeOf_append, agree.typeOf]

theorem refine_eq (context : Context) (condition : Expr) : a.refine context condition = b.refine context condition := by
  have same : a.log.typeOf = b.log.typeOf := funext agree.typeOf
  rw [Session.refine, Session.refine, same]

end Agrees

-- Typing an expression in place opens blocks, tells something in them and closes them, above
-- blocks that are stacked differently. Only the answers of the scope come into what is found.
theorem walk_alike (context : Context) {a b : Session} (agree : a.Agrees b) (expr : Expr) :
    let one := a.walk context expr
    let other := b.walk context expr
    one = a.infer context expr ∧ other = b.infer context expr ∧ one.1 = other.1 ∧
      (∃ found : Log, one.2.log = a.log ++ found ∧ other.2.log = b.log ++ found) ∧
      (∀ condition, one.2.refine context condition = other.2.refine context condition) ∧ one.2.Agrees other.2 := by
  intro one other
  have typed : expr.infer context a.scope = expr.infer context b.scope := Expr.infer_congr context expr agree.scope
  have left : one = ((expr.infer context a.scope).type, a.add (expr.infer context a.scope).log) := walk_add context expr a
  have right : other = ((expr.infer context a.scope).type, b.add (expr.infer context a.scope).log) := by
    rw [typed]
    exact walk_add context expr b
  have after : one.2.Agrees other.2 := by
    rw [left, right]
    exact agree.add _
  refine ⟨walk_add context expr a, walk_add context expr b, ?_, ?_, ?_, after⟩
  · rw [left, right]
  · exact ⟨(expr.infer context a.scope).log, by rw [left]; rfl, by rw [right]; rfl⟩
  · intro condition
    exact after.refine_eq context condition

def flatScope : Scope := ⟨⟨[⟨"x", .optionalParam, .int⟩], []⟩, []⟩

-- Two blocks: the outer one has `x: string`, and in the inner one `x` is known to be `int|null`.
def stackedScope : Scope :=
  ⟨⟨[], [(.bare "x", .nullable .int)]⟩, [⟨[⟨"x", .localBinding, .string⟩], []⟩]⟩

def flatSession : Session := ⟨flatScope, ⟨[(9, .string)], []⟩⟩

def stackedSession : Session := ⟨stackedScope, ⟨[(9, .string), (9, .null)], [⟨.undefinedName "y", .nowhere, none⟩]⟩⟩

theorem flat_agrees_stacked : flatSession.Agrees stackedSession := by
  refine ⟨@Scope.agrees_of_narrowed .empty _ _ ⟨"x", .optionalParam, .int⟩ ⟨"x", .localBinding, .string⟩ rfl rfl rfl, ?_⟩
  intro id
  cases same : id == 9 <;> simp [Log.typeOf, flatSession, stackedSession, List.lookup_cons, same]

-- `$x != null ? $x + $z : -$x`
def guardedSum : Expr :=
  .conditional (.numbered 8) (.binary (.numbered 2) .notEquals (.var (.numbered 0) "x") (.null (.numbered 1)))
    (.binary (.numbered 5) .plus (.var (.numbered 3) "x") (.var (.numbered 4) "z"))
    (.unary (.numbered 7) .negate (.var (.numbered 6) "x"))

theorem walk_alike_guardedSum :
    let context : Context := .builtin .v2_4
    let one := (flatSession.walk context guardedSum).2
    let other := (stackedSession.walk context guardedSum).2
    flatSession.Agrees stackedSession ∧ one.Agrees other ∧ one.scope = flatScope ∧ other.scope = stackedScope ∧
      one.log.diagnostics.map Diagnostic.node = [some 4, some 7] ∧
      other.log.diagnostics.map Diagnostic.node = [none, some 4, some 7] ∧
      other.log.typeOf 3 = some .int ∧ other.log.typeOf 6 = some .null ∧
      other.refine context (.var (.numbered 0) "x") = ⟨[(.bare "x", .int)], [(.bare "x", .null)]⟩ := by
  intro context one other
  obtain ⟨_, _, _, _, refined, after⟩ := walk_alike context flat_agrees_stacked guardedSum
  refine ⟨flat_agrees_stacked, after, rfl, rfl, by decide +kernel, by decide +kernel, by decide +kernel,
    by decide +kernel, ?_⟩
  rw [← refined]
  rfl

end Session
end TypedTemplate
