import TypedTemplate.Proofs.Token.Advance
import TypedTemplate.Proofs.TypeExpr.Members

namespace TypedTemplate

open Parsed Cursor

namespace TypeExpr

variable {origin : Cursor}

mutual
theorem parse_from {cursor : Cursor} (reached : origin.Moves cursor) : (parse cursor).From origin := by
  rw [parse_eq]
  refine (parseMember_from reached).andThen fun first next shorter reached => ?_
  exact (parseMembers_from reached).upTo fun rest done _ reached => reached
termination_by 3 * cursor.size + 1

theorem parseMember_from {cursor : Cursor} (reached : origin.Moves cursor) : (parseMember cursor).From origin := by
  rw [parseMember]
  refine (take_from reached).andThen fun token next shorter behind => ?_
  split
  · split
    · refine (consume_from behind _).after fun _ inside _ reached => ?_
      refine (parse_from reached).after fun first later _ reached => ?_
      refine (parseArguments_from reached).upTo fun rest last _ reached => ?_
      exact (consumeFor_from reached _ _).after fun _ done _ reached => reached
    · exact behind
  · exact behind
  · exact behind
  · refine (parseFields_from behind).upTo fun fields last _ reached => ?_
    exact (consume_from reached _).after fun _ done _ reached => reached
  · exact reached
termination_by 3 * cursor.size

theorem parseMembers_from {cursor : Cursor} (reached : origin.Moves cursor) : (parseMembers cursor).From origin := by
  rw [parseMembers]
  split
  · apply From.loosen
    refine (consume_from reached _).andThen fun _ next shorter reached => ?_
    refine (parseMember_from reached).after fun member later _ reached => ?_
    exact (parseMembers_from reached).upTo fun rest done _ reached => reached
  · exact reached
termination_by 3 * cursor.size

theorem parseArguments_from {cursor : Cursor} (reached : origin.Moves cursor) : (parseArguments cursor).From origin := by
  rw [parseArguments]
  split
  · apply From.loosen
    refine (consume_from reached _).andThen fun _ next shorter reached => ?_
    refine (parse_from reached).after fun argument later _ reached => ?_
    exact (parseArguments_from reached).upTo fun rest done _ reached => reached
  · exact reached
termination_by 3 * cursor.size

theorem parseFields_from {cursor : Cursor} (reached : origin.Moves cursor) : (parseFields cursor).From origin := by
  rw [parseFields]
  split
  · exact reached
  · apply From.loosen
    refine (consumeFor_from reached _ _).andThen fun name afterName shorter reached => ?_
    refine (consume_from reached _).after fun _ typeStart _ reached => ?_
    refine (parse_from reached).after fun type later _ reached => ?_
    split
    · refine (consume_from reached _).after fun _ more _ reached => ?_
      exact (parseFields_from reached).upTo fun rest done _ reached => reached
    · exact reached
termination_by 3 * cursor.size
end

end TypeExpr
end TypedTemplate
