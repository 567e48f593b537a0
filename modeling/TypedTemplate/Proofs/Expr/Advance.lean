import TypedTemplate.Expr.Parse
import TypedTemplate.Proofs.Token.Advance

namespace TypedTemplate

open Parsed Cursor

namespace Expr

variable {origin : Cursor}

-- The recursion is that of the readers: each hands on how far it got to those behind it. Only a
-- reader that meets the wrong token stops in front of it.
mutual
theorem parse_from {cursor : Cursor} (reached : origin.Moves cursor) (power : BindingPower) :
    (parse power cursor).From origin := by
  rw [parse]
  refine (parseOperand_from reached).andThen fun left next shorter reached => ?_
  exact (extend_from reached power left).upTo fun _ _ _ reached => reached
termination_by 4 * cursor.size + 2

theorem parseOperand_from {cursor : Cursor} (reached : origin.Moves cursor) : (parseOperand cursor).From origin := by
  rw [parseOperand]
  refine (take_from reached).andThen fun token next shorter behind => ?_
  split
  · split
    · exact build_from behind
    · exact behind
  · exact build_from behind
  · exact build_from behind
  · exact build_from behind
  · exact build_from behind
  · exact build_from behind
  · refine (consumeFor_from behind _ _).after fun _ inside shorter' reached => ?_
    refine (parseArguments_from reached).upTo fun args last _ reached => ?_
    exact (consume_from reached _).after fun _ done _ reached => build_from reached
  · exact (parse_from behind .unary).after fun operand done _ reached => build_from reached
  · exact (parse_from behind .unary).after fun operand done _ reached => build_from reached
  · refine (parse_from behind .lowest).after fun inner last _ reached => ?_
    exact (consume_from reached _).after fun _ done _ reached => reached
  · exact (parseCollection_from behind _).after fun _ _ _ reached => reached
  · exact reached
termination_by 4 * cursor.size + 1

theorem extend_from {cursor : Cursor} (reached : origin.Moves cursor) (power : BindingPower) (left : Expr) :
    (extend power left cursor).From origin := by
  rw [extend]
  split
  · apply From.loosen
    refine (parseOperator_from reached left).andThen fun whole next _ reached => ?_
    exact (extend_from reached power whole).upTo fun _ _ _ reached => reached
  · exact reached
termination_by 4 * cursor.size + 2

theorem parseOperator_from {cursor : Cursor} (reached : origin.Moves cursor) (left : Expr) :
    (parseOperator left cursor).From origin := by
  rw [parseOperator]
  refine (take_from reached).andThen fun token next shorter behind => ?_
  split
  · exact (parse_from behind .lowest).after fun right done _ reached => build_from reached
  · refine (parse_from behind .lowest).after fun thenValue middle _ reached => ?_
    refine (consumeFor_from reached _ _).after fun _ last _ reached => ?_
    exact (parse_from reached .lowest).after fun elseValue done _ reached => build_from reached
  · exact (consumeFor_from behind _ _).after fun name done _ reached => build_from reached
  · exact (consumeFor_from behind _ _).after fun name done _ reached => build_from reached
  · refine (parse_from behind .lowest).after fun key last _ reached => ?_
    exact (consume_from reached _).after fun _ done _ reached => build_from reached
  · refine (parse_from behind .lowest).after fun key last _ reached => ?_
    exact (consume_from reached _).after fun _ done _ reached => build_from reached
  · split
    · exact reached
    · exact (parse_from behind _).after fun right done _ reached => build_from reached
termination_by 4 * cursor.size + 1

theorem parseArguments_from {cursor : Cursor} (reached : origin.Moves cursor) :
    (parseArguments cursor).From origin := by
  rw [parseArguments]
  split
  · exact reached
  · apply From.loosen
    refine (parse_from reached .lowest).andThen fun first next shorter reached => ?_
    split
    · refine (consume_from reached _).after fun _ more _ reached => ?_
      exact (parseArguments_from reached).upTo fun rest done _ reached => reached
    · exact reached
termination_by 4 * cursor.size + 3

theorem parseCollection_from {cursor : Cursor} (reached : origin.Moves cursor) (start : Position) :
    (parseCollection start cursor).From origin := by
  rw [parseCollection]
  split
  · refine (consume_from reached _).andThen fun _ last _ reached => ?_
    exact (consume_from reached _).after fun _ done _ reached => build_from reached
  split
  · exact (consume_from reached _).andThen fun _ done _ reached => build_from reached
  · refine (parse_from reached .lowest).andThen fun first next shorter reached => ?_
    split
    · refine (consume_from reached _).after fun _ middle _ reached => ?_
      refine (parse_from reached .lowest).after fun value later _ reached => ?_
      refine (parseEntries_from reached).upTo fun rest last _ reached => ?_
      exact (consume_from reached _).after fun _ done _ reached => build_from reached
    · refine (parseItems_from reached).upTo fun rest last _ reached => ?_
      exact (consume_from reached _).after fun _ done _ reached => build_from reached
termination_by 4 * cursor.size + 3

theorem parseItems_from {cursor : Cursor} (reached : origin.Moves cursor) : (parseItems cursor).From origin := by
  rw [parseItems]
  split
  · apply From.loosen
    refine (consume_from reached _).andThen fun _ next shorter reached => ?_
    split
    · exact reached
    · refine (parse_from reached .lowest).after fun item later _ reached => ?_
      split
      · exact reached
      · exact (parseItems_from reached).upTo fun rest done _ reached => reached
  · exact reached
termination_by 4 * cursor.size + 3

theorem parseEntries_from {cursor : Cursor} (reached : origin.Moves cursor) : (parseEntries cursor).From origin := by
  rw [parseEntries]
  split
  · apply From.loosen
    refine (consume_from reached _).andThen fun _ next shorter reached => ?_
    split
    · exact reached
    · refine (parse_from reached .lowest).after fun key middle _ reached => ?_
      split
      · refine (consume_from reached _).after fun _ later _ reached => ?_
        refine (parse_from reached .lowest).after fun value last _ reached => ?_
        exact (parseEntries_from reached).upTo fun rest done _ reached => reached
      · exact reached
  · exact reached
termination_by 4 * cursor.size + 3
end

end Expr
end TypedTemplate
