import Mathlib.Algebra.Group.Int.Defs
import TypedTemplate.Expr.Parse
import TypedTemplate.Proofs.Expr.Numbers
import TypedTemplate.Proofs.Token.Word

namespace TypedTemplate

def UnaryOperator.kind : UnaryOperator → TokenKind
  | negate => .dash
  | not => .notWord

def BinaryOperator.kind : BinaryOperator → TokenKind
  | plus => .plus
  | minus => .dash
  | times => .star
  | divide => .slash
  | modulo => .percent
  | less => .less
  | lessEquals => .lessEquals
  | greater => .greater
  | greaterEquals => .greaterEquals
  | equals => .equals
  | notEquals => .notEquals
  | and => .andWord
  | or => .orWord
  | orElse => .elvis

def BinaryOperator.power (operator : BinaryOperator) : BindingPower := .ofKind operator.kind

namespace Expr

def power : Expr → BindingPower
  | field .. | index .. => .member
  | unary .. => .unary
  | binary _ operator _ _ => operator.power
  | conditional .. => .conditional
  | _ => .primary

def grouped (needed : Bool) (words : List Word) : List Word :=
  if needed then TokenKind.openParen.word :: (words ++ [TokenKind.closeParen.word]) else words

-- An expression in words. Parentheses stand around an operand that does not hold together
-- as tightly as its operator, or no tighter if it is the right one, and around a choice
-- that another choice is made by. `spell` says how the floats are written.
mutual
def bare (spell : Node → String) : Expr → List Word
  | null _ => [TokenKind.nullWord.word]
  | bool _ true => [TokenKind.trueWord.word]
  | bool _ false => [TokenKind.falseWord.word]
  | int _ value => [(.number, toString value)]
  | float node _ => [(.number, spell node)]
  | string _ value => [(.string, value)]
  | list _ [] => [TokenKind.openBracket.word, TokenKind.closeBracket.word]
  | list _ (first :: rest) =>
    TokenKind.openBracket.word :: (bare spell first ++ (bareItems spell rest ++ [TokenKind.closeBracket.word]))
  | map _ [] => [TokenKind.openBracket.word, TokenKind.colon.word, TokenKind.closeBracket.word]
  | map _ ((key, value) :: rest) =>
    TokenKind.openBracket.word :: (bare spell key ++ (TokenKind.colon.word ::
      (bare spell value ++ (bareEntries spell rest ++ [TokenKind.closeBracket.word]))))
  | var _ name => [(.variableName, name)]
  | field _ base name nullSafe =>
    grouped (base.power.level < BindingPower.member.level) (bare spell base) ++
      [(bif nullSafe then TokenKind.questionDot else .dot).word, (.identifier, name)]
  | index _ base key nullSafe =>
    grouped (base.power.level < BindingPower.member.level) (bare spell base) ++
      ((bif nullSafe then TokenKind.questionBracket else .openBracket).word ::
        (bare spell key ++ [TokenKind.closeBracket.word]))
  | unary _ operator operand =>
    operator.kind.word :: grouped (operand.power.level < BindingPower.unary.level) (bare spell operand)
  | binary _ .orElse left right =>
    grouped (left.power = .conditional) (bare spell left) ++ (TokenKind.elvis.word :: bare spell right)
  | binary _ operator left right =>
    grouped (left.power.level < operator.power.level) (bare spell left) ++
      (operator.kind.word :: grouped (right.power.level ≤ operator.power.level) (bare spell right))
  | conditional _ condition thenValue elseValue =>
    grouped (condition.power = .conditional) (bare spell condition) ++ (TokenKind.question.word ::
      (bare spell thenValue ++ (TokenKind.colon.word :: bare spell elseValue)))
  | call _ name [] => [(.identifier, name), TokenKind.openParen.word, TokenKind.closeParen.word]
  | call _ name (first :: rest) =>
    (.identifier, name) :: TokenKind.openParen.word ::
      (bare spell first ++ (bareItems spell rest ++ [TokenKind.closeParen.word]))

def bareItems (spell : Node → String) : List Expr → List Word
  | [] => []
  | item :: rest => TokenKind.comma.word :: (bare spell item ++ bareItems spell rest)

def bareEntries (spell : Node → String) : List (Expr × Expr) → List Word
  | [] => []
  | (key, value) :: rest =>
    TokenKind.comma.word :: (bare spell key ++ (TokenKind.colon.word :: (bare spell value ++ bareEntries spell rest)))
end

attribute [simp] bare bareItems bareEntries

def write (spell : Node → String) (power : BindingPower) (expr : Expr) : List Word :=
  grouped (expr.power.level ≤ power.level) (bare spell expr)

-- That a number can be written: a whole one if it is not negative and in range, any
-- other if its spelling reads as it.
def Spellable (spell : Node → String) : Expr → Prop
  | int _ value => 0 ≤ value ∧ value < 2 ^ 63
  | float node bits => ofNumeral? (spell node) = some (float · bits)
  | _ => True

mutual
def shape : Expr → Expr
  | null _ => null (.numbered 0)
  | bool _ value => bool (.numbered 0) value
  | int _ value => int (.numbered 0) value
  | float _ bits => float (.numbered 0) bits
  | string _ value => string (.numbered 0) value
  | list _ items => list (.numbered 0) (shapes items)
  | map _ entries => map (.numbered 0) (entryShapes entries)
  | var _ name => var (.numbered 0) name
  | field _ base name nullSafe => field (.numbered 0) base.shape name nullSafe
  | index _ base key nullSafe => index (.numbered 0) base.shape key.shape nullSafe
  | unary _ operator operand => unary (.numbered 0) operator operand.shape
  | binary _ operator left right => binary (.numbered 0) operator left.shape right.shape
  | conditional _ condition thenValue elseValue =>
    conditional (.numbered 0) condition.shape thenValue.shape elseValue.shape
  | call _ name args => call (.numbered 0) name (shapes args)

def shapes : List Expr → List Expr
  | [] => []
  | expr :: rest => expr.shape :: shapes rest

def entryShapes : List (Expr × Expr) → List (Expr × Expr)
  | [] => []
  | (key, value) :: rest => (key.shape, value.shape) :: entryShapes rest
end

attribute [simp] shape shapes entryShapes

end Expr
end TypedTemplate
