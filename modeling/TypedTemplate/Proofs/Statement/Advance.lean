import TypedTemplate.Proofs.Expr.Advance
import TypedTemplate.Proofs.TypeExpr.Advance
import TypedTemplate.Statement.Parse

namespace TypedTemplate

open Parsed Cursor

namespace Statement

variable {origin : Cursor}

theorem parseNameTail_from {cursor : Cursor} (reached : origin.Moves cursor) : (parseNameTail cursor).From origin := by
  rw [parseNameTail]
  split
  · apply From.loosen
    refine (consume_from reached _).andThen fun _ next shorter reached => ?_
    refine (consume_from reached _).after fun part later _ reached => ?_
    exact (parseNameTail_from reached).upTo fun tail done _ reached => reached
  · exact reached
termination_by cursor.size

theorem parseBareName_from {cursor : Cursor} (reached : origin.Moves cursor) : (parseBareName cursor).From origin := by
  refine (consume_from reached _).andThen fun first next shorter reached => ?_
  exact (parseNameTail_from reached).upTo fun tail done _ reached => reached

theorem parseName_from {cursor : Cursor} (reached : origin.Moves cursor) : (parseName cursor).From origin := by
  unfold parseName
  split
  · refine (consume_from reached _).andThen fun _ next shorter reached => ?_
    exact (parseBareName_from reached).after fun name done _ reached => reached
  · exact parseBareName_from reached

theorem parseAttributes_from {cursor : Cursor} (reached : origin.Moves cursor) : (parseAttributes cursor).From origin := by
  rw [parseAttributes]
  split
  · apply From.loosen
    refine (consume_from reached _).andThen fun _ afterName shorter reached => ?_
    refine (consume_from reached _).after fun _ afterSign _ reached => ?_
    refine (consume_from reached _).after fun _ next _ reached => ?_
    exact (parseAttributes_from reached).upTo fun _ done _ reached => reached
  · exact reached
termination_by cursor.size

theorem parseClosing_from {cursor : Cursor} (reached : origin.Moves cursor) (keyword : TokenKind) :
    (parseClosing keyword cursor).From origin := by
  refine (consumeFor_from reached _ _).andThen fun _ word shorter reached => ?_
  refine (consume_from reached _).after fun _ last _ reached => ?_
  exact (consume_from reached _).after fun _ done _ reached => reached

theorem parseDirectiveArguments_from {cursor : Cursor} (reached : origin.Moves cursor) :
    (parseDirectiveArguments cursor).From origin := by
  rw [parseDirectiveArguments]
  split
  · apply From.loosen
    refine (consume_from reached _).andThen fun _ next shorter reached => ?_
    refine (Expr.parse_from reached .lowest).after fun _ later _ reached => ?_
    exact (parseDirectiveArguments_from reached).upTo fun _ done _ reached => reached
  · exact reached
termination_by cursor.size

theorem parseDirectives_from {cursor : Cursor} (reached : origin.Moves cursor) : (parseDirectives cursor).From origin := by
  rw [parseDirectives]
  split
  · apply From.loosen
    refine (consume_from reached _).andThen fun _ nameStart shorter reached => ?_
    refine (consumeFor_from reached _ _).after fun name afterName _ reached => ?_
    split
    · refine (consume_from reached _).after fun _ argumentStart _ reached => ?_
      refine (Expr.parse_from reached .lowest).after fun _ more _ reached => ?_
      refine (parseDirectiveArguments_from reached).upTo fun _ next _ reached => ?_
      exact (parseDirectives_from reached).upTo fun rest done _ reached => reached
    · exact (parseDirectives_from reached).upTo fun rest done _ reached => reached
  · exact reached
termination_by cursor.size

theorem parsePrinted_from {cursor : Cursor} (reached : origin.Moves cursor) (opening : Token) :
    (parsePrinted opening cursor).From origin := by
  refine (Expr.parse_from reached .lowest).andThen fun expr afterExpr shorter reached => ?_
  refine (parseDirectives_from reached).upTo fun directives last _ reached => ?_
  exact (consume_from reached _).after fun _ done _ reached => reached

theorem parsePrint_from {cursor : Cursor} (reached : origin.Moves cursor) : (parsePrint cursor).From origin := by
  refine (take_from reached).andThen fun opening next shorter reached => ?_
  split
  · refine (consume_from reached _).after fun _ exprStart _ reached => ?_
    exact (parsePrinted_from reached opening).after fun _ _ _ reached => reached
  · exact (parsePrinted_from reached opening).after fun _ _ _ reached => reached

theorem parseParam_from {cursor : Cursor} (reached : origin.Moves cursor) : (parseParam cursor).From origin := by
  refine (take_from reached).andThen fun opening keyword shorter reached => ?_
  refine (take_from reached).after fun declared nameStart _ reached => ?_
  refine (consumeFor_from reached _ _).after fun name afterName _ reached => ?_
  refine (consume_from reached _).after fun _ typeStart _ reached => ?_
  refine (TypeExpr.parse_from reached).after fun typeExpr last _ reached => ?_
  exact (consume_from reached _).after fun _ done _ reached => reached

mutual
theorem parse_from {cursor : Cursor} (reached : origin.Moves cursor) : (parse cursor).From origin := by
  rw [parse]
  split
  · exact (take_from reached).andThen fun token next shorter reached => reached
  · split
    · exact parseParam_from reached
    · exact parseParam_from reached
    · exact parseParam_from reached
    · exact parseParam_from reached
    · exact parseLet_from reached
    · exact parseIf_from reached
    · exact parseForeach_from reached
    · exact parseForeach_from reached
    · exact parsePrint_from reached
  · exact reached
termination_by 5 * cursor.size + 1

theorem parseBlock_from {cursor : Cursor} (reached : origin.Moves cursor) : (parseBlock cursor).From origin := by
  rw [parseBlock]
  split
  · exact reached
  split
  · exact reached
  · apply From.loosen
    refine (parse_from reached).andThen fun statement next shorter reached => ?_
    exact (parseBlock_from reached).upTo fun rest done _ reached => reached
termination_by 5 * cursor.size + 2

theorem parseLet_from {cursor : Cursor} (reached : origin.Moves cursor) : (parseLet cursor).From origin := by
  rw [parseLet]
  refine (take_from reached).andThen fun opening keyword shorter reached => ?_
  refine (take_from reached).after fun _ nameStart _ reached => ?_
  refine (consumeFor_from reached _ _).after fun name afterName _ reached => ?_
  split
  · refine (consume_from reached _).after fun _ valueStart _ reached => ?_
    refine (Expr.parse_from reached .lowest).after fun value last _ reached => ?_
    exact (consume_from reached _).after fun _ done _ reached => reached
  · refine (parseAttributes_from reached).upTo fun _ last _ reached => ?_
    refine (consume_from reached _).after fun _ bodyStart _ reached => ?_
    refine (parseBlock_from reached).upTo fun body closing _ reached => ?_
    exact (parseClosing_from reached _).after fun _ done _ reached => reached
termination_by 5 * cursor.size

theorem parseIf_from {cursor : Cursor} (reached : origin.Moves cursor) : (parseIf cursor).From origin := by
  rw [parseIf]
  refine (take_from reached).andThen fun opening keyword shorter reached => ?_
  refine (take_from reached).after fun _ conditionStart _ reached => ?_
  refine (parseBranch_from reached _).after fun first next _ reached => ?_
  refine (parseBranches_from reached).upTo fun others closing _ reached => ?_
  exact (parseClosing_from reached _).after fun _ done _ reached => reached
termination_by 5 * cursor.size

theorem parseBranch_from {cursor : Cursor} (reached : origin.Moves cursor) (start : Position) :
    (parseBranch start cursor).From origin := by
  rw [parseBranch]
  refine (Expr.parse_from reached .lowest).andThen fun condition last shorter reached => ?_
  refine (consume_from reached _).after fun _ bodyStart _ reached => ?_
  exact (parseBlock_from reached).upTo fun body done _ reached => reached
termination_by 5 * cursor.size

theorem parseBranches_from {cursor : Cursor} (reached : origin.Moves cursor) : (parseBranches cursor).From origin := by
  rw [parseBranches]
  split
  · apply From.loosen
    refine (take_from reached).andThen fun opening keyword shorter reached => ?_
    refine (take_from reached).after fun _ conditionStart _ reached => ?_
    refine (parseBranch_from reached _).after fun branch next _ reached => ?_
    exact (parseBranches_from reached).upTo fun others done _ reached => reached
  split
  · apply From.loosen
    refine (take_from reached).andThen fun _ keyword shorter reached => ?_
    refine (take_from reached).after fun _ last _ reached => ?_
    refine (consume_from reached _).after fun _ bodyStart _ reached => ?_
    exact (parseBlock_from reached).upTo fun body done _ reached => reached
  · exact reached
termination_by 5 * cursor.size

theorem parseForeach_from {cursor : Cursor} (reached : origin.Moves cursor) : (parseForeach cursor).From origin := by
  rw [parseForeach]
  refine (take_from reached).andThen fun opening keyword shorter reached => ?_
  refine (take_from reached).after fun word varStart _ reached => ?_
  refine (consumeFor_from reached _ _).after fun name afterName _ reached => ?_
  refine (consume_from reached _).after fun _ iterableStart _ reached => ?_
  refine (Expr.parse_from reached .lowest).after fun iterable last _ reached => ?_
  refine (consume_from reached _).after fun _ bodyStart _ reached => ?_
  refine (parseBlock_from reached).upTo fun body next _ reached => ?_
  refine (parseIfEmpty_from reached).upTo fun ifEmpty closing _ reached => ?_
  exact (parseClosing_from reached _).after fun _ done _ reached => reached
termination_by 5 * cursor.size

theorem parseIfEmpty_from {cursor : Cursor} (reached : origin.Moves cursor) : (parseIfEmpty cursor).From origin := by
  rw [parseIfEmpty]
  split
  · apply From.loosen
    refine (take_from reached).andThen fun _ keyword shorter reached => ?_
    refine (take_from reached).after fun _ last _ reached => ?_
    refine (consume_from reached _).after fun _ bodyStart _ reached => ?_
    exact (parseBlock_from reached).upTo fun body done _ reached => reached
  · exact reached
termination_by 5 * cursor.size
end

end Statement
end TypedTemplate
