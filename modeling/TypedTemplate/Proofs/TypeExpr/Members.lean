import TypedTemplate.Proofs.Token.Cursor
import TypedTemplate.Proofs.TypeExpr.Write

namespace TypedTemplate.TypeExpr

open Parsed

def ofMembers : TypeExpr → List TypeExpr → TypeExpr
  | first, [] => first
  | first, rest => union (first :: rest)

def parseMembers (cursor : Cursor) : Parsed (cursor.size + 1) (List TypeExpr) :=
  if cursor.kind = .pipe then
    loosen <| (cursor.consume .pipe).andThen fun _ next h =>
    after h (parseMember next) fun member later h =>
    upTo h (parseMembers later) fun rest done h => .ok (member :: rest) done h
  else .ok [] cursor cursor.size_lt
termination_by cursor.size

theorem consume_kind {cursor next : Cursor} {kind : TokenKind} {token : Token} {shorter : next.size < cursor.size}
    (taken : cursor.consume kind = .ok token next shorter) : token.kind = kind := by
  obtain ⟨rest, endValue, endSpan, previousEnd, nextId⟩ := cursor
  unfold Cursor.consume at taken
  split at taken
  · rename_i same
    cases rest with
    | nil => cases taken
    | cons first rest =>
      cases taken
      exact same
  · cases taken

theorem bindingPower_of_ne {kind : TokenKind} (other : kind ≠ .pipe) : bindingPower kind = .lowest := by
  unfold bindingPower
  split
  · contradiction
  · rfl

-- Nothing binds more tightly behind a type than a bar.
theorem extend_logicalOr (left : TypeExpr) (cursor : Cursor) :
    extend .logicalOr left cursor = .ok left cursor cursor.size_lt := by
  have loose : ¬BindingPower.logicalOr.level < (bindingPower cursor.kind).level := by
    unfold bindingPower
    split <;> decide
  rw [extend, if_neg loose]

theorem parseAbove_logicalOr (cursor : Cursor) : parseAbove .logicalOr cursor = parseMember cursor := by
  rw [parseAbove]
  cases parseMember cursor with
  | error diagnostic stopped => rfl
  | ok left next shorter =>
    rw [andThen, extend_logicalOr]
    rfl

theorem parseMember_plain (cursor : Cursor) : (parseMember cursor).Ensures fun member _ => member.isUnion = false := by
  rw [parseMember]
  refine (ensures_any _).andThen fun token next _ _ => ?_
  split
  · split
    · refine (ensures_any _).after fun _ inside _ _ => (ensures_any _).after fun first later _ _ => ?_
      exact (ensures_any _).upTo fun rest last _ _ => (ensures_any _).after fun _ done _ _ => rfl
    · rfl
  · rfl
  · rfl
  · exact (ensures_any _).upTo fun fields last _ _ => (ensures_any _).after fun _ done _ _ => rfl
  · trivial

theorem extend_lowest (left : TypeExpr) (cursor : Cursor) : extend .lowest left cursor =
    upTo cursor.size_lt (parseMembers cursor) fun rest done h => .ok (rest.foldl withMember left) done h := by
  rw [extend, parseMembers]
  by_cases bar : cursor.kind = .pipe
  · rw [if_pos bar, if_pos (by rw [bar]; decide), parseBar]
    cases taken : cursor.consume .pipe with
    | error diagnostic stopped => rfl
    | ok token next shorter =>
      simp only [andThen, consume_kind taken, bindingPower, parseAbove_logicalOr]
      cases parseMember next with
      | error diagnostic stopped => rfl
      | ok member later shorter' =>
        simp only [after, extend_lowest (left.withMember member) later]
        cases parseMembers later <;> rfl
  · rw [if_neg bar, if_neg (by rw [bindingPower_of_ne bar]; decide)]
    rfl
termination_by cursor.size
decreasing_by exact Nat.lt_trans shorter' shorter

theorem foldl_withMember (members rest : List TypeExpr) :
    rest.foldl withMember (union members) = union (members ++ rest) := by
  induction rest generalizing members with
  | nil => rw [List.append_nil]; rfl
  | cons member rest ih => rw [List.foldl_cons, withMember, ih, List.append_assoc]; rfl

theorem foldl_withMember_plain {first : TypeExpr} (plain : first.isUnion = false) (rest : List TypeExpr) :
    rest.foldl withMember first = ofMembers first rest := by
  cases rest with
  | nil => rfl
  | cons second rest =>
    have both : first.withMember second = union [first, second] := by
      cases first with
      | union members => cases plain
      | named | generic | record => rfl
    rw [List.foldl_cons, both, foldl_withMember]
    rfl

-- An annotation is read member by member, with bars between them.
theorem parse_eq (cursor : Cursor) : parse cursor = (parseMember cursor).andThen fun first next h =>
    upTo h (parseMembers next) fun rest done h => .ok (ofMembers first rest) done h := by
  have plain := parseMember_plain cursor
  rw [parse, parseAbove]
  cases read : parseMember cursor with
  | error diagnostic stopped => rfl
  | ok first next shorter =>
    rw [read] at plain
    simp only [andThen, extend_lowest]
    cases parseMembers next with
    | error diagnostic stopped => rfl
    | ok rest done shorter' =>
      simp only [upTo, foldl_withMember_plain plain]

end TypedTemplate.TypeExpr
