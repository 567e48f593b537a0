import TypedTemplate.Expr.Parse
import TypedTemplate.Proofs.Expr.Numbers
import TypedTemplate.Proofs.Token.Cursor

namespace TypedTemplate

open Parsed

-- An expression read at a cursor, the parts of which have numbers from some number on:
-- its own numbers are those of its parts and the next one.
theorem Cursor.build_minted {limit first : Nat} {cursor : Cursor} {make : Node → Expr} {parts : List Nat}
    (minted : Minted first cursor.nextId parts) (span : Span) (shorter : cursor.size < limit)
    (shape : ∀ node, (make node).ids = parts ++ [node.id]) :
    (cursor.build span make shorter).Ensures fun expr next => Minted first next.nextId expr.ids := by
  show Minted first (cursor.nextId + 1) (make ⟨cursor.nextId, span⟩).ids
  rw [shape]
  exact minted.append (.single cursor.nextId)

namespace Expr

theorem ofNumeral?_ids {text : String} {make : Node → Expr} (found : ofNumeral? text = some make) (node : Node) :
    (make node).ids = [node.id] := by
  unfold ofNumeral? at found
  split at found
  · obtain ⟨bits, _, same⟩ := Option.map_eq_some_iff.mp found
    subst same
    rfl
  · obtain ⟨value, _, same⟩ := Option.map_eq_some_iff.mp found
    subst same
    rfl

-- Every expression gets a number after its parts, and the parts get theirs in source
-- order. Each piece of the parser keeps to it, given what stands before the piece.
mutual
theorem parse_minted (power : BindingPower) (cursor : Cursor) :
    (parse power cursor).Ensures fun expr next => Minted cursor.nextId next.nextId expr.ids := by
  rw [parse]
  refine (parseOperand_minted cursor).andThen fun left next shorter minted => ?_
  exact (extend_minted minted power).upTo fun _ _ _ found => found
termination_by 4 * cursor.size + 2

theorem parseOperand_minted (cursor : Cursor) :
    (parseOperand cursor).Ensures fun expr next => Minted cursor.nextId next.nextId expr.ids := by
  rw [parseOperand]
  refine cursor.take_keeps.andThen fun token next shorter same => ?_
  rw [← same]
  have start := Minted.none next.nextId
  split
  · split
    · rename_i make found
      exact Cursor.build_minted start _ _ (ofNumeral?_ids found)
    · trivial
  · exact Cursor.build_minted start _ _ fun _ => rfl
  · exact Cursor.build_minted start _ _ fun _ => rfl
  · exact Cursor.build_minted start _ _ fun _ => rfl
  · exact Cursor.build_minted start _ _ fun _ => rfl
  · exact Cursor.build_minted start _ _ fun _ => rfl
  · refine (next.consumeFor_keeps _ _).after fun _ inside shorter' opened => ?_
    refine (parseArguments_minted inside).upTo fun args last _ minted => ?_
    refine (last.consume_keeps _).after fun _ done _ closed => ?_
    rw [← opened]
    rw [← closed] at minted
    exact Cursor.build_minted minted _ _ fun _ => by simp [ids, subterms, Expr.id, Expr.node]
  · refine (parse_minted .unary next).after fun operand done _ minted => ?_
    exact Cursor.build_minted minted _ _ fun _ => by simp [ids, subterms, Expr.id, Expr.node]
  · refine (parse_minted .unary next).after fun operand done _ minted => ?_
    exact Cursor.build_minted minted _ _ fun _ => by simp [ids, subterms, Expr.id, Expr.node]
  · refine (parse_minted .lowest next).after fun inner last _ minted => ?_
    refine (last.consume_keeps _).after fun _ done _ closed => ?_
    rw [← closed] at minted
    exact minted
  · exact (parseCollection_minted _ next).after fun _ _ _ found => found
  · trivial
termination_by 4 * cursor.size + 1

theorem extend_minted {first : Nat} {left : Expr} {cursor : Cursor} (minted : Minted first cursor.nextId left.ids)
    (power : BindingPower) : (extend power left cursor).Ensures fun expr next => Minted first next.nextId expr.ids := by
  rw [extend]
  split
  · apply Ensures.loosen
    refine (parseOperator_minted minted).andThen fun whole next _ minted => ?_
    exact (extend_minted minted power).upTo fun _ _ _ found => found
  · exact minted
termination_by 4 * cursor.size + 2

theorem parseOperator_minted {first : Nat} {left : Expr} {cursor : Cursor} (minted : Minted first cursor.nextId left.ids) :
    (parseOperator left cursor).Ensures fun expr next => Minted first next.nextId expr.ids := by
  rw [parseOperator]
  refine cursor.take_keeps.andThen fun token next shorter same => ?_
  rw [← same] at minted
  split
  · refine (parse_minted .lowest next).after fun right done _ minted' => ?_
    exact Cursor.build_minted (minted.append minted') _ _ fun _ => by simp [ids, subterms, Expr.id, Expr.node]
  · refine (parse_minted .lowest next).after fun thenValue middle _ minted' => ?_
    refine (middle.consumeFor_keeps _ _).after fun _ last _ passed => ?_
    refine (parse_minted .lowest last).after fun elseValue done _ minted'' => ?_
    rw [passed] at minted''
    exact Cursor.build_minted ((minted.append minted').append minted'') _ _
      fun _ => by simp [ids, subterms, Expr.id, Expr.node]
  · refine (next.consumeFor_keeps _ _).after fun name done _ passed => ?_
    rw [← passed] at minted
    exact Cursor.build_minted minted _ _ fun _ => by simp [ids, subterms, Expr.id, Expr.node]
  · refine (next.consumeFor_keeps _ _).after fun name done _ passed => ?_
    rw [← passed] at minted
    exact Cursor.build_minted minted _ _ fun _ => by simp [ids, subterms, Expr.id, Expr.node]
  · refine (parse_minted .lowest next).after fun key last _ minted' => ?_
    refine (last.consume_keeps _).after fun _ done _ closed => ?_
    rw [← closed] at minted'
    exact Cursor.build_minted (minted.append minted') _ _ fun _ => by simp [ids, subterms, Expr.id, Expr.node]
  · refine (parse_minted .lowest next).after fun key last _ minted' => ?_
    refine (last.consume_keeps _).after fun _ done _ closed => ?_
    rw [← closed] at minted'
    exact Cursor.build_minted (minted.append minted') _ _ fun _ => by simp [ids, subterms, Expr.id, Expr.node]
  · split
    · trivial
    · refine (parse_minted _ next).after fun right done _ minted' => ?_
      exact Cursor.build_minted (minted.append minted') _ _ fun _ => by simp [ids, subterms, Expr.id, Expr.node]
termination_by 4 * cursor.size + 1

theorem parseArguments_minted (cursor : Cursor) : (parseArguments cursor).Ensures
    fun args next => Minted cursor.nextId next.nextId ((subtermsOf args).map Expr.id) := by
  rw [parseArguments]
  split
  · exact .none cursor.nextId
  · apply Ensures.loosen
    refine (parse_minted .lowest cursor).andThen fun first next shorter minted => ?_
    split
    · refine (next.consume_keeps _).after fun _ more _ passed => ?_
      refine (parseArguments_minted more).upTo fun rest done _ minted' => ?_
      rw [passed] at minted'
      show Minted _ _ _
      rw [subtermsOf, List.map_append]
      exact minted.append minted'
    · show Minted _ _ _
      rw [subtermsOf, subtermsOf, List.append_nil]
      exact minted
termination_by 4 * cursor.size + 3

theorem parseCollection_minted (start : Position) (cursor : Cursor) : (parseCollection start cursor).Ensures
    fun expr next => Minted cursor.nextId next.nextId expr.ids := by
  rw [parseCollection]
  split
  · refine (cursor.consume_keeps _).andThen fun _ last _ passed => ?_
    refine (last.consume_keeps _).after fun _ done _ closed => ?_
    rw [← passed, ← closed]
    exact Cursor.build_minted (.none done.nextId) _ _ fun _ => rfl
  split
  · refine (cursor.consume_keeps _).andThen fun _ done _ closed => ?_
    rw [← closed]
    exact Cursor.build_minted (.none done.nextId) _ _ fun _ => rfl
  · refine (parse_minted .lowest cursor).andThen fun first next shorter minted => ?_
    split
    · refine (next.consume_keeps _).after fun _ middle _ passed => ?_
      refine (parse_minted .lowest middle).after fun value later _ minted' => ?_
      refine (parseEntries_minted later).upTo fun rest last _ minted'' => ?_
      refine (last.consume_keeps _).after fun _ done _ closed => ?_
      rw [passed] at minted'
      rw [← closed] at minted''
      exact Cursor.build_minted ((minted.append minted').append minted'') _ _
        fun _ => by simp [ids, subterms, subtermsOfEntries, Expr.id, Expr.node]
    · refine (parseItems_minted next).upTo fun rest last _ minted' => ?_
      refine (last.consume_keeps _).after fun _ done _ closed => ?_
      rw [← closed] at minted'
      exact Cursor.build_minted (minted.append minted') _ _
        fun _ => by simp [ids, subterms, subtermsOf, Expr.id, Expr.node]
termination_by 4 * cursor.size + 3

theorem parseItems_minted (cursor : Cursor) : (parseItems cursor).Ensures
    fun items next => Minted cursor.nextId next.nextId ((subtermsOf items).map Expr.id) := by
  rw [parseItems]
  split
  · apply Ensures.loosen
    refine (cursor.consume_keeps _).andThen fun _ next shorter passed => ?_
    rw [← passed]
    split
    · exact .none next.nextId
    · refine (parse_minted .lowest next).after fun item later _ minted => ?_
      split
      · trivial
      · refine (parseItems_minted later).upTo fun rest done _ minted' => ?_
        show Minted _ _ _
        rw [subtermsOf, List.map_append]
        exact minted.append minted'
  · exact .none cursor.nextId
termination_by 4 * cursor.size + 3

theorem parseEntries_minted (cursor : Cursor) : (parseEntries cursor).Ensures
    fun entries next => Minted cursor.nextId next.nextId ((subtermsOfEntries entries).map Expr.id) := by
  rw [parseEntries]
  split
  · apply Ensures.loosen
    refine (cursor.consume_keeps _).andThen fun _ next shorter passed => ?_
    rw [← passed]
    split
    · exact .none next.nextId
    · refine (parse_minted .lowest next).after fun key middle _ minted => ?_
      split
      · refine (middle.consume_keeps _).after fun _ later _ passed' => ?_
        refine (parse_minted .lowest later).after fun value last _ minted' => ?_
        refine (parseEntries_minted last).upTo fun rest done _ minted'' => ?_
        rw [passed'] at minted'
        show Minted _ _ _
        rw [subtermsOfEntries, List.map_append, List.map_append]
        exact (minted.append minted').append minted''
      · trivial
  · exact .none cursor.nextId
termination_by 4 * cursor.size + 3
end

end Expr
end TypedTemplate
