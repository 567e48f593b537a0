import TypedTemplate.Operator
import TypedTemplate.Token.Cursor
import TypedTemplate.TypeExpr

namespace TypedTemplate.TypeExpr

open Parsed

def bindingPower : TokenKind → BindingPower
  | .pipe => .logicalOr
  | _ => .lowest

def withMember : TypeExpr → TypeExpr → TypeExpr
  | union members, last => union (members ++ [last])
  | first, last => union [first, last]

-- Reading an annotation, as far as the bars in it bind above the power. There are no
-- parentheses, and so there is no union right behind a bar.
mutual
def parseAbove (power : BindingPower) (cursor : Cursor) : Parsed cursor.size TypeExpr :=
  (parseMember cursor).andThen fun left next h => upTo h (extend power left next) .ok
termination_by 4 * cursor.size + 2

def parseMember (cursor : Cursor) : Parsed cursor.size TypeExpr :=
  cursor.take.andThen fun token next h =>
    match token.kind with
    | .identifier =>
      if next.kind = .less then
        after h (next.consume .less) fun _ inside h =>
        after h (parseAbove .lowest inside) fun first later h =>
        upTo h (parseArguments later) fun rest last h =>
        after h (last.consumeFor .greater "expected `>` to close type arguments") fun _ done h =>
          .ok (generic token.value (first :: rest) token.span.start) done h
      else .ok (named token.value token.span.start) next h
    | .question | .nullWord => .ok (named token.value token.span.start) next h
    | .openBracket =>
      upTo h (parseFields next) fun fields last h =>
      after h (last.consume .closeBracket) fun _ done h =>
        .ok (record fields token.span.start) done h
    | _ => .error cursor.unexpected cursor
termination_by 4 * cursor.size + 1

def extend (power : BindingPower) (left : TypeExpr) (cursor : Cursor) : Parsed (cursor.size + 1) TypeExpr :=
  if power.level < (bindingPower cursor.kind).level then
    loosen <| (parseBar left cursor).andThen fun whole next h => upTo h (extend power whole next) .ok
  else .ok left cursor cursor.size_lt
termination_by 4 * cursor.size + 2

def parseBar (left : TypeExpr) (cursor : Cursor) : Parsed cursor.size TypeExpr :=
  (cursor.consume .pipe).andThen fun bar next h =>
  after h (parseAbove (bindingPower bar.kind) next) fun right done h => .ok (left.withMember right) done h
termination_by 4 * cursor.size + 1

def parseArguments (cursor : Cursor) : Parsed (cursor.size + 1) (List TypeExpr) :=
  if cursor.kind = .comma then
    loosen <| (cursor.consume .comma).andThen fun _ next h =>
    after h (parseAbove .lowest next) fun argument later h =>
    upTo h (parseArguments later) fun rest done h => .ok (argument :: rest) done h
  else .ok [] cursor cursor.size_lt
termination_by 4 * cursor.size + 3

-- The fields of a record up to the closing bracket; the last may have a comma.
def parseFields (cursor : Cursor) : Parsed (cursor.size + 1) (List (String × TypeExpr)) :=
  if cursor.kind = .closeBracket then .ok [] cursor cursor.size_lt
  else
    loosen <| (cursor.consumeFor .identifier "expected record field name").andThen fun name afterName h =>
    after h (afterName.consume .colon) fun _ typeStart h =>
    after h (parseAbove .lowest typeStart) fun type later h =>
      if later.kind = .comma then
        after h (later.consume .comma) fun _ more h =>
        upTo h (parseFields more) fun rest done h => .ok ((name.value, type) :: rest) done h
      else .ok [(name.value, type)] later h
termination_by 4 * cursor.size + 3
end

def parse (cursor : Cursor) : Parsed cursor.size TypeExpr := parseAbove .lowest cursor

end TypedTemplate.TypeExpr
