import TypedTemplate.Proofs.Expr.Minted
import TypedTemplate.Proofs.Statement.Optional
import TypedTemplate.Proofs.TypeExpr.Keeps
import TypedTemplate.Statement.Parse

namespace TypedTemplate

open Parsed

namespace Statement

open TypedTemplate.Expr (idsOf)

theorem parseNameTail_keeps (cursor : Cursor) : (parseNameTail cursor).Ensures cursor.Keeps := by
  rw [parseNameTail]
  split
  · apply Ensures.loosen
    refine (cursor.consume_keeps _).andThen fun _ next shorter same => ?_
    refine (next.consume_keeps _).after fun part later _ same' => ?_
    refine (parseNameTail_keeps later).upTo fun tail done _ same'' => ?_
    exact same''.trans (same'.trans same)
  · rfl
termination_by cursor.size

theorem parseBareName_keeps (cursor : Cursor) : (parseBareName cursor).Ensures cursor.Keeps := by
  refine (cursor.consume_keeps _).andThen fun first next shorter same => ?_
  exact (parseNameTail_keeps next).upTo fun tail done _ same' => same'.trans same

theorem parseName_keeps (cursor : Cursor) : (parseName cursor).Ensures cursor.Keeps := by
  unfold parseName
  split
  · refine (cursor.consume_keeps _).andThen fun _ next shorter same => ?_
    exact (parseBareName_keeps next).after fun name done _ same' => same'.trans same
  · exact parseBareName_keeps cursor

theorem parseAttributes_keeps (cursor : Cursor) : (parseAttributes cursor).Ensures cursor.Keeps := by
  rw [parseAttributes]
  split
  · apply Ensures.loosen
    refine (cursor.consume_keeps _).andThen fun _ afterName shorter same => ?_
    refine (afterName.consume_keeps _).after fun _ afterSign _ same' => ?_
    refine (afterSign.consume_keeps _).after fun _ next _ same'' => ?_
    refine (parseAttributes_keeps next).upTo fun _ done _ passed => ?_
    exact passed.trans (same''.trans (same'.trans same))
  · rfl
termination_by cursor.size

theorem parseClosing_keeps (keyword : TokenKind) (cursor : Cursor) : (parseClosing keyword cursor).Ensures cursor.Keeps := by
  refine (cursor.consumeFor_keeps _ _).andThen fun _ word shorter same => ?_
  refine (word.consume_keeps _).after fun _ last _ same' => ?_
  exact (last.consume_keeps _).after fun _ done _ same'' => same''.trans (same'.trans same)

theorem parseDirectiveArguments_le (cursor : Cursor) :
    (parseDirectiveArguments cursor).Ensures fun _ next => cursor.nextId ≤ next.nextId := by
  rw [parseDirectiveArguments]
  split
  · apply Ensures.loosen
    refine (cursor.consume_keeps _).andThen fun _ next shorter same => ?_
    refine (Expr.parse_minted .lowest next).after fun _ later _ minted => ?_
    refine (parseDirectiveArguments_le later).upTo fun _ done _ le => ?_
    exact Nat.le_trans (same ▸ minted.le) le
  · exact Nat.le_refl cursor.nextId
termination_by cursor.size

-- The arguments of print directives take numbers, though they are not kept.
theorem parseDirectives_le (cursor : Cursor) :
    (parseDirectives cursor).Ensures fun _ next => cursor.nextId ≤ next.nextId := by
  rw [parseDirectives]
  split
  · apply Ensures.loosen
    refine (cursor.consume_keeps _).andThen fun _ nameStart shorter same => ?_
    refine (nameStart.consumeFor_keeps _ _).after fun name afterName _ same' => ?_
    have passed := same'.trans same
    split
    · refine (afterName.consume_keeps _).after fun _ argumentStart _ same'' => ?_
      refine (Expr.parse_minted .lowest argumentStart).after fun _ more _ minted => ?_
      refine (parseDirectiveArguments_le more).upTo fun _ next _ le => ?_
      refine (parseDirectives_le next).upTo fun rest done _ le' => ?_
      exact Nat.le_trans (same''.trans passed ▸ minted.le) (Nat.le_trans le le')
    · refine (parseDirectives_le afterName).upTo fun rest done _ le => ?_
      exact passed ▸ le
  · exact Nat.le_refl cursor.nextId
termination_by cursor.size

theorem parsePrinted_minted (opening : Token) (cursor : Cursor) : (parsePrinted opening cursor).Ensures
    fun statement next => Minted cursor.nextId next.nextId (idsOf statement.expressions) := by
  refine (Expr.parse_minted .lowest cursor).andThen fun expr afterExpr shorter minted => ?_
  refine (parseDirectives_le afterExpr).upTo fun directives last _ le => ?_
  refine (last.consume_keeps _).after fun _ done _ closed => ?_
  show Minted _ _ (idsOf (print expr directives _).expressions)
  rw [expressions, Expr.idsOf_single, closed]
  exact minted.skip le

theorem parsePrint_minted (cursor : Cursor) : (parsePrint cursor).Ensures
    fun statement next => Minted cursor.nextId next.nextId (idsOf statement.expressions) := by
  refine cursor.take_keeps.andThen fun opening next shorter same => ?_
  rw [← same]
  split
  · refine (next.consume_keeps _).after fun _ exprStart _ passed => ?_
    rw [← passed]
    exact (parsePrinted_minted opening exprStart).after fun _ _ _ found => found
  · exact (parsePrinted_minted opening next).after fun _ _ _ found => found

theorem parseParam_minted (cursor : Cursor) : (parseParam cursor).Ensures
    fun statement next => Minted cursor.nextId next.nextId (idsOf statement.expressions) := by
  refine cursor.take_keeps.andThen fun opening keyword shorter same => ?_
  refine keyword.take_keeps.after fun declared nameStart _ same' => ?_
  refine (nameStart.consumeFor_keeps _ _).after fun name afterName _ same'' => ?_
  refine (afterName.consume_keeps _).after fun _ typeStart _ passed => ?_
  refine (TypeExpr.parse_keeps typeStart).after fun typeExpr last _ passed' => ?_
  refine (last.consume_keeps _).after fun _ done _ closed => ?_
  have whole := closed.trans (passed'.trans (passed.trans (same''.trans (same'.trans same))))
  show Minted _ _ []
  rw [whole]
  exact .none cursor.nextId

mutual
theorem parse_minted (cursor : Cursor) : (parse cursor).Ensures
    fun statement next => Minted cursor.nextId next.nextId (idsOf statement.expressions) := by
  rw [parse]
  split
  · refine cursor.take_keeps.andThen fun token next shorter same => ?_
    show Minted _ _ []
    rw [same]
    exact .none cursor.nextId
  · split
    · exact parseParam_minted cursor
    · exact parseParam_minted cursor
    · exact parseParam_minted cursor
    · exact parseParam_minted cursor
    · exact parseLet_minted cursor
    · exact parseIf_minted cursor
    · exact parseForeach_minted cursor
    · exact parseForeach_minted cursor
    · exact parsePrint_minted cursor
  · trivial
termination_by 5 * cursor.size + 1

theorem parseBlock_minted (cursor : Cursor) : (parseBlock cursor).Ensures
    fun body next => Minted cursor.nextId next.nextId (idsOf (bodyExpressions body)) := by
  rw [parseBlock]
  split
  · exact .none cursor.nextId
  split
  · trivial
  · apply Ensures.loosen
    refine (parse_minted cursor).andThen fun statement next shorter minted => ?_
    refine (parseBlock_minted next).upTo fun rest done _ minted' => ?_
    show Minted _ _ (idsOf (bodyExpressions (statement :: rest)))
    rw [bodyExpressions, Expr.idsOf_append]
    exact minted.append minted'
termination_by 5 * cursor.size + 2

theorem parseLet_minted (cursor : Cursor) : (parseLet cursor).Ensures
    fun statement next => Minted cursor.nextId next.nextId (idsOf statement.expressions) := by
  rw [parseLet]
  refine cursor.take_keeps.andThen fun opening keyword shorter same => ?_
  refine keyword.take_keeps.after fun _ nameStart _ same' => ?_
  refine (nameStart.consumeFor_keeps _ _).after fun name afterName _ same'' => ?_
  have passed := same''.trans (same'.trans same)
  split
  · refine (afterName.consume_keeps _).after fun _ valueStart _ passed' => ?_
    refine (Expr.parse_minted .lowest valueStart).after fun value last _ minted => ?_
    refine (last.consume_keeps _).after fun _ done _ closed => ?_
    show Minted _ _ (idsOf (letValue name.value value _).expressions)
    rw [expressions, Expr.idsOf_single, closed, ← passed'.trans passed]
    exact minted
  · refine (parseAttributes_keeps afterName).upTo fun _ last _ passed' => ?_
    refine (last.consume_keeps _).after fun _ bodyStart _ opened => ?_
    refine (parseBlock_minted bodyStart).upTo fun body closing _ minted => ?_
    refine (parseClosing_keeps _ closing).after fun _ done _ closed => ?_
    show Minted _ _ (idsOf (letBlock name.value body _).expressions)
    rw [expressions, closed, ← opened.trans (passed'.trans passed)]
    exact minted
termination_by 5 * cursor.size

theorem parseIf_minted (cursor : Cursor) : (parseIf cursor).Ensures
    fun statement next => Minted cursor.nextId next.nextId (idsOf statement.expressions) := by
  rw [parseIf]
  refine cursor.take_keeps.andThen fun opening keyword shorter same => ?_
  refine keyword.take_keeps.after fun _ conditionStart _ same' => ?_
  refine (parseBranch_minted _ conditionStart).after fun first next _ minted => ?_
  refine (parseBranches_minted next).upTo fun others closing _ minted' => ?_
  obtain ⟨rest, otherwise⟩ := others
  refine (parseClosing_keeps _ closing).after fun _ done _ closed => ?_
  show Minted _ _ (idsOf (choose (first :: rest) otherwise _).expressions)
  have shape : branchExpressions (first :: rest) = branchExpressions [first] ++ branchExpressions rest := by
    simp [branchExpressions]
  rw [expressions_choose, shape, List.append_assoc, Expr.idsOf_append, closed, ← same'.trans same]
  exact minted.append minted'
termination_by 5 * cursor.size

theorem parseBranch_minted (start : Position) (cursor : Cursor) : (parseBranch start cursor).Ensures
    fun branch next => Minted cursor.nextId next.nextId (idsOf (branchExpressions [branch])) := by
  rw [parseBranch]
  refine (Expr.parse_minted .lowest cursor).andThen fun condition last shorter minted => ?_
  refine (last.consume_keeps _).after fun _ bodyStart _ opened => ?_
  refine (parseBlock_minted bodyStart).upTo fun body done _ minted' => ?_
  rw [opened] at minted'
  show Minted _ _ (idsOf (branchExpressions [⟨condition, body, _⟩]))
  rw [branchExpressions, branchExpressions, List.append_nil, Expr.idsOf_cons]
  exact minted.append minted'
termination_by 5 * cursor.size

theorem parseBranches_minted (cursor : Cursor) : (parseBranches cursor).Ensures
    fun others next => Minted cursor.nextId next.nextId (idsOf (branchExpressions others.1 ++ optionalExpressions others.2)) := by
  rw [parseBranches]
  split
  · apply Ensures.loosen
    refine cursor.take_keeps.andThen fun opening keyword shorter same => ?_
    refine keyword.take_keeps.after fun _ conditionStart _ same' => ?_
    refine (parseBranch_minted _ conditionStart).after fun branch next _ minted => ?_
    refine (parseBranches_minted next).upTo fun others done _ minted' => ?_
    obtain ⟨rest, otherwise⟩ := others
    show Minted _ _ (idsOf (branchExpressions (branch :: rest) ++ optionalExpressions otherwise))
    have shape : branchExpressions (branch :: rest) = branchExpressions [branch] ++ branchExpressions rest := by
      simp [branchExpressions]
    rw [shape, List.append_assoc, Expr.idsOf_append, ← same'.trans same]
    exact minted.append minted'
  split
  · apply Ensures.loosen
    refine cursor.take_keeps.andThen fun _ keyword shorter same => ?_
    refine keyword.take_keeps.after fun _ last _ same' => ?_
    refine (last.consume_keeps _).after fun _ bodyStart _ opened => ?_
    refine (parseBlock_minted bodyStart).upTo fun body done _ minted => ?_
    show Minted _ _ (idsOf (bodyExpressions body))
    rw [← opened.trans (same'.trans same)]
    exact minted
  · exact .none cursor.nextId
termination_by 5 * cursor.size

theorem parseForeach_minted (cursor : Cursor) : (parseForeach cursor).Ensures
    fun statement next => Minted cursor.nextId next.nextId (idsOf statement.expressions) := by
  rw [parseForeach]
  refine cursor.take_keeps.andThen fun opening keyword shorter same => ?_
  refine keyword.take_keeps.after fun word varStart _ same' => ?_
  refine (varStart.consumeFor_keeps _ _).after fun name afterName _ same'' => ?_
  refine (afterName.consume_keeps _).after fun _ iterableStart _ passed => ?_
  refine (Expr.parse_minted .lowest iterableStart).after fun iterable last _ minted => ?_
  refine (last.consume_keeps _).after fun _ bodyStart _ opened => ?_
  refine (parseBlock_minted bodyStart).upTo fun body next _ minted' => ?_
  refine (parseIfEmpty_minted next).upTo fun ifEmpty closing _ minted'' => ?_
  refine (parseClosing_keeps _ closing).after fun _ done _ closed => ?_
  rw [opened] at minted'
  show Minted _ _ (idsOf (foreach name.value iterable body ifEmpty _).expressions)
  rw [expressions_foreach, Expr.idsOf_cons, Expr.idsOf_append, closed,
    ← passed.trans (same''.trans (same'.trans same))]
  exact minted.append (minted'.append minted'')
termination_by 5 * cursor.size

theorem parseIfEmpty_minted (cursor : Cursor) : (parseIfEmpty cursor).Ensures
    fun ifEmpty next => Minted cursor.nextId next.nextId (idsOf (optionalExpressions ifEmpty)) := by
  rw [parseIfEmpty]
  split
  · apply Ensures.loosen
    refine cursor.take_keeps.andThen fun _ keyword shorter same => ?_
    refine keyword.take_keeps.after fun _ last _ same' => ?_
    refine (last.consume_keeps _).after fun _ bodyStart _ opened => ?_
    refine (parseBlock_minted bodyStart).upTo fun body done _ minted => ?_
    show Minted _ _ (idsOf (bodyExpressions body))
    rw [← opened.trans (same'.trans same)]
    exact minted
  · exact .none cursor.nextId
termination_by 5 * cursor.size
end

end Statement
end TypedTemplate
