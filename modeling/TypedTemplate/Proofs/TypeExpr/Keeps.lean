import TypedTemplate.Proofs.TypeExpr.Members

namespace TypedTemplate

open Parsed

namespace TypeExpr

-- Annotations hold no expressions, so that reading one takes no number.
mutual
theorem parse_keeps (cursor : Cursor) : (parse cursor).Ensures cursor.Keeps := by
  rw [parse_eq]
  refine (parseMember_keeps cursor).andThen fun first next shorter same => ?_
  refine (parseMembers_keeps next).upTo fun rest done _ same' => ?_
  exact same'.trans same
termination_by 3 * cursor.size + 1

theorem parseMember_keeps (cursor : Cursor) : (parseMember cursor).Ensures cursor.Keeps := by
  rw [parseMember]
  refine cursor.take_keeps.andThen fun token next shorter same => ?_
  split
  · split
    · refine (next.consume_keeps _).after fun _ inside _ opened => ?_
      refine (parse_keeps inside).after fun first later _ passed => ?_
      refine (parseArguments_keeps later).upTo fun rest last _ passed' => ?_
      refine (last.consumeFor_keeps _ _).after fun _ done _ closed => ?_
      exact closed.trans (passed'.trans (passed.trans (opened.trans same)))
    · exact same
  · exact same
  · exact same
  · refine (parseFields_keeps next).upTo fun fields last _ passed => ?_
    refine (last.consume_keeps _).after fun _ done _ closed => ?_
    exact closed.trans (passed.trans same)
  · trivial
termination_by 3 * cursor.size

theorem parseMembers_keeps (cursor : Cursor) : (parseMembers cursor).Ensures cursor.Keeps := by
  rw [parseMembers]
  split
  · apply Ensures.loosen
    refine (cursor.consume_keeps _).andThen fun _ next shorter same => ?_
    refine (parseMember_keeps next).after fun member later _ same' => ?_
    refine (parseMembers_keeps later).upTo fun rest done _ same'' => ?_
    exact same''.trans (same'.trans same)
  · rfl
termination_by 3 * cursor.size

theorem parseArguments_keeps (cursor : Cursor) : (parseArguments cursor).Ensures cursor.Keeps := by
  rw [parseArguments]
  split
  · apply Ensures.loosen
    refine (cursor.consume_keeps _).andThen fun _ next shorter same => ?_
    refine (parse_keeps next).after fun argument later _ same' => ?_
    refine (parseArguments_keeps later).upTo fun rest done _ same'' => ?_
    exact same''.trans (same'.trans same)
  · rfl
termination_by 3 * cursor.size

theorem parseFields_keeps (cursor : Cursor) : (parseFields cursor).Ensures cursor.Keeps := by
  rw [parseFields]
  split
  · rfl
  · apply Ensures.loosen
    refine (cursor.consumeFor_keeps _ _).andThen fun name afterName shorter same => ?_
    refine (afterName.consume_keeps _).after fun _ typeStart _ passed => ?_
    refine (parse_keeps typeStart).after fun type later _ same' => ?_
    have passed' := same'.trans (passed.trans same)
    split
    · refine (later.consume_keeps _).after fun _ more _ passed => ?_
      refine (parseFields_keeps more).upTo fun rest done _ same'' => ?_
      exact same''.trans (passed.trans passed')
    · exact passed'
termination_by 3 * cursor.size
end

end TypeExpr
end TypedTemplate
