import TypedTemplate.Numeral
import TypedTemplate.Operator
import TypedTemplate.Token.Cursor

namespace TypedTemplate.Expr

open Parsed

-- Whole numbers stay whole; a fraction or an exponent makes a float.
def ofNumeral? (text : String) : Option (Node → Expr) :=
  if text.toList.any fun c => c == '.' || c == 'e' || c == 'E' then
    (Numeral.binary64? text.toList).map fun bits node => float node bits
  else (Numeral.integer? text.toList).map fun value node => int node value

def spanTo (expr : Expr) (stop : Position) : Span := ⟨expr.span.start, stop⟩

-- Reading an expression, and the pieces that recur in it. Operators of a power above
-- the given one are taken in; `lowest` reads as much as there is. An expression gets
-- its number after its parts.
mutual
def parse (power : BindingPower) (cursor : Cursor) : Parsed cursor.size Expr :=
  (parseOperand cursor).andThen fun left next h => upTo h (extend power left next) .ok
termination_by 4 * cursor.size + 2

def parseOperand (cursor : Cursor) : Parsed cursor.size Expr :=
  cursor.take.andThen fun token next h =>
    match token.kind with
    | .number =>
      match ofNumeral? token.value with
      | some make => next.build token.span make h
      | none => .error ⟨.numberParseError token.value, token.span.start, none⟩ next
    | .string => next.build token.span (string · token.value) h
    | .nullWord => next.build token.span null h
    | .trueWord => next.build token.span (bool · true) h
    | .falseWord => next.build token.span (bool · false) h
    | .variableName => next.build token.span (var · token.value) h
    | .identifier =>
      after h (next.consumeFor .openParen "expected `(` after function name") fun _ inside h =>
      upTo h (parseArguments inside) fun args last h =>
      after h (last.consume .closeParen) fun _ done h =>
        done.build ⟨token.span.start, done.previousEnd⟩ (call · token.value args) h
    | .dash =>
      after h (parse .unary next) fun operand done h =>
        done.build ⟨token.span.start, operand.span.stop⟩ (unary · .negate operand) h
    | .notWord =>
      after h (parse .unary next) fun operand done h =>
        done.build ⟨token.span.start, operand.span.stop⟩ (unary · .not operand) h
    | .openParen =>
      after h (parse .lowest next) fun inner last h =>
      after h (last.consume .closeParen) fun _ done h => .ok inner done h
    | .openBracket => after h (parseCollection token.span.start next) .ok
    | _ => .error cursor.unexpected cursor
termination_by 4 * cursor.size + 1

def extend (power : BindingPower) (left : Expr) (cursor : Cursor) : Parsed (cursor.size + 1) Expr :=
  if power.level < (BindingPower.ofKind cursor.kind).level then
    loosen <| (parseOperator left cursor).andThen fun whole next h => upTo h (extend power whole next) .ok
  else .ok left cursor cursor.size_lt
termination_by 4 * cursor.size + 2

-- One operator and what belongs to it. The right sides of `?:` and `? :` reach as
-- far as they can, those of other operators as far as the operator binds.
def parseOperator (left : Expr) (cursor : Cursor) : Parsed cursor.size Expr :=
  cursor.take.andThen fun token next h =>
    match token.kind with
    | .elvis =>
      after h (parse .lowest next) fun right done h =>
        done.build (left.spanTo right.span.stop) (binary · .orElse left right) h
    | .question =>
      after h (parse .lowest next) fun thenValue middle h =>
      after h (middle.consumeFor .colon "expected `:` in conditional expression") fun _ last h =>
      after h (parse .lowest last) fun elseValue done h =>
        done.build (left.spanTo elseValue.span.stop) (conditional · left thenValue elseValue) h
    | .dot | .questionDot =>
      after h (next.consumeFor .identifier "expected field name") fun name done h =>
        done.build (left.spanTo name.span.stop) (field · left name.value (token.kind == .questionDot)) h
    | .openBracket | .questionBracket =>
      after h (parse .lowest next) fun key last h =>
      after h (last.consume .closeBracket) fun _ done h =>
        done.build (left.spanTo done.previousEnd) (index · left key (token.kind == .questionBracket)) h
    | kind =>
      match BinaryOperator.ofKind? kind with
      | none => .error cursor.unexpected cursor
      | some operator =>
        after h (parse (.ofKind kind) next) fun right done h =>
          done.build (left.spanTo right.span.stop) (binary · operator left right) h
termination_by 4 * cursor.size + 1

def parseArguments (cursor : Cursor) : Parsed (cursor.size + 1) (List Expr) :=
  if cursor.kind = .closeParen then .ok [] cursor cursor.size_lt
  else
    loosen <| (parse .lowest cursor).andThen fun first next h =>
      if next.kind = .comma then
        after h (next.consume .comma) fun _ more h =>
        upTo h (parseArguments more) fun rest done h => .ok (first :: rest) done h
      else .ok [first] next h
termination_by 4 * cursor.size + 3

-- After an opening bracket. The token after the first expression tells a list from
-- a map; what is empty is a list unless there is a colon.
def parseCollection (start : Position) (cursor : Cursor) : Parsed cursor.size Expr :=
  if cursor.kind = .colon ∧ cursor.peek 1 = .closeBracket then
    (cursor.consume .colon).andThen fun _ last h =>
    after h (last.consume .closeBracket) fun _ done h =>
      done.build ⟨start, done.previousEnd⟩ (map · []) h
  else if cursor.kind = .closeBracket then
    (cursor.consume .closeBracket).andThen fun _ done h =>
      done.build ⟨start, done.previousEnd⟩ (list · []) h
  else
    (parse .lowest cursor).andThen fun first next h =>
      if next.kind = .colon then
        after h (next.consume .colon) fun _ middle h =>
        after h (parse .lowest middle) fun value later h =>
        upTo h (parseEntries later) fun rest last h =>
        after h (last.consume .closeBracket) fun _ done h =>
          done.build ⟨start, done.previousEnd⟩ (map · ((first, value) :: rest)) h
      else
        upTo h (parseItems next) fun rest last h =>
        after h (last.consume .closeBracket) fun _ done h =>
          done.build ⟨start, done.previousEnd⟩ (list · (first :: rest)) h
termination_by 4 * cursor.size + 3

def parseItems (cursor : Cursor) : Parsed (cursor.size + 1) (List Expr) :=
  if cursor.kind = .comma then
    loosen <| (cursor.consume .comma).andThen fun _ next h =>
      if next.kind = .closeBracket then .ok [] next h
      else
        after h (parse .lowest next) fun item later h =>
          if later.kind = .colon then .error (later.unexpectedFor "mixed list and map literal") later
          else upTo h (parseItems later) fun rest done h => .ok (item :: rest) done h
  else .ok [] cursor cursor.size_lt
termination_by 4 * cursor.size + 3

def parseEntries (cursor : Cursor) : Parsed (cursor.size + 1) (List (Expr × Expr)) :=
  if cursor.kind = .comma then
    loosen <| (cursor.consume .comma).andThen fun _ next h =>
      if next.kind = .closeBracket then .ok [] next h
      else
        after h (parse .lowest next) fun key middle h =>
          if middle.kind = .colon then
            after h (middle.consume .colon) fun _ later h =>
            after h (parse .lowest later) fun value last h =>
            upTo h (parseEntries last) fun rest done h => .ok ((key, value) :: rest) done h
          else .error (middle.unexpectedFor "expected `:` in map literal") middle
  else .ok [] cursor cursor.size_lt
termination_by 4 * cursor.size + 3
end

end TypedTemplate.Expr
