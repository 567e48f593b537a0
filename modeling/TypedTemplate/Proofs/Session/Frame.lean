import TypedTemplate.Proofs.Session.Walk

namespace TypedTemplate

theorem Session.performBlock_append (context : Context) (first second : List Statement) (session : Session) :
    session.performBlock context (first ++ second) = (session.performBlock context first).performBlock context second := by
  induction first generalizing session with
  | nil => rfl
  | cons statement rest ih => exact ih (session.perform context statement)

-- Checking leaves the scope as it should be, whatever is found on the way. An expression, or
-- a statement that declares nothing in its block, leaves all of it as it was. A block
-- leaves what is around it as it was, and adds to itself the names its own statements
-- declare and no others. A name keeps its first meaning, and each further declaration of it
-- in a block, this one or one inside it, is reported once and where it stands.
theorem Session.walk_restores (context : Context) (session : Session) :
    (∀ expr, session.walk context expr = session.infer context expr ∧
        (session.walk context expr).2.scope = session.scope) ∧
      (∀ statement, statement.declared? = none → (session.perform context statement).scope = session.scope) ∧
      (∀ body,
        let after := session.performBlock context body
        after = session.checkBlock context body ∧ after.scope.depth = session.scope.depth ∧
          after.scope.outer = session.scope.outer ∧
          session.scope.current.Grows after.scope.current (body.filterMap Statement.declared?) ∧
          after.log.redeclared =
            session.log.redeclared ++ Statement.bodyRedeclared session.scope.current.names body) ∧
      ∀ earlier later name symbol, (session.performBlock context earlier).scope.current.symbol? name = some symbol →
        (session.performBlock context (earlier ++ later)).scope.current.symbol? name = some symbol := by
  refine ⟨fun expr => ⟨walk_add context expr session, by rw [walk_add]; rfl⟩, fun statement silent => ?_,
    fun body => ?_, fun earlier later name symbol found => ?_⟩
  · rw [perform_eq_check]
    exact Statement.check_scope context statement session.scope silent
  · intro after
    have same : after = session.checkBlock context body := performBlock_eq_checkBlock context body session
    obtain ⟨outer, grows⟩ := Statement.checkBlock_grows context body session.scope
    have reported : (Statement.checkBlock context session.scope body).log.redeclared =
        Statement.bodyRedeclared session.scope.current.names body :=
      Statement.checkBlock_redeclared context body fun _ => Frame.mem_names
    rw [same]
    refine ⟨rfl, congrArg (·.length + 1) outer, outer, grows, ?_⟩
    rw [checkBlock, Log.redeclared_append, reported]
  · rw [performBlock_append, performBlock_eq_checkBlock context later]
    exact (Statement.checkBlock_grows context later _).2.symbol?_eq found

def knowingSession : Session :=
  ⟨⟨⟨[⟨"pair", .requiredParam, .list .int⟩], [(⟨"pair", []⟩, .list .int), (⟨"other", ["first"]⟩, .int)]⟩,
    [⟨[⟨"other", .requiredParam, .unknown⟩], []⟩]⟩, .empty⟩

-- `{let $pair: null /}{foreach $item in $pair}{let $item: null /}{/foreach}{let $other: null /}`
def declaringLoop : Statement :=
  .foreach "item" (.var (.numbered 1) "pair") [.letValue "item" (.null (.numbered 2)) .nowhere] none .nowhere

def declaringBody : List Statement :=
  [.letValue "pair" (.null (.numbered 0)) .nowhere, declaringLoop, .letValue "other" (.null (.numbered 3)) .nowhere]

theorem walk_restores_declaringBody :
    let context : Context := .builtin .v2_2
    let after := knowingSession.performBlock context declaringBody
    declaringLoop.declared? = none ∧ (knowingSession.perform context declaringLoop).scope = knowingSession.scope ∧
      knowingSession.scope.current.Grows after.scope.current ["pair", "other"] ∧
      after.scope.current.names = ["other", "pair"] ∧
      after.scope.current.narrowed = [(⟨"pair", []⟩, .list .int)] ∧
      after.scope.current.symbol? "pair" = some ⟨"pair", .requiredParam, .list .int⟩ ∧
      (after.log.redeclared.map fun diagnostic => diagnostic.fault) =
        [.duplicateDeclaration "pair", .duplicateDeclaration "item"] := by
  intro context after
  obtain ⟨_, restored, block, kept⟩ := Session.walk_restores context knowingSession
  obtain ⟨_, _, _, grows, reported⟩ := block declaringBody
  refine ⟨rfl, restored declaringLoop rfl, grows, by decide +kernel, rfl, ?_, ?_⟩
  · exact kept [] declaringBody "pair" _ rfl
  · rw [reported]
    rfl

end TypedTemplate
