import TypedTemplate.Token

namespace TypedTemplate

inductive UnaryOperator where
  | negate | not
deriving DecidableEq

def UnaryOperator.symbol : UnaryOperator → String
  | .negate => "-"
  | .not => "not"

inductive BinaryOperator where
  | plus | minus | times | divide | modulo
  | less | lessEquals | greater | greaterEquals | equals | notEquals
  | and | or
  -- The left operand unless it is null, else the right one.
  | orElse
deriving DecidableEq

namespace BinaryOperator

def symbol : BinaryOperator → String
  | plus => "+"
  | minus => "-"
  | times => "*"
  | divide => "/"
  | modulo => "%"
  | less => "<"
  | lessEquals => "<="
  | greater => ">"
  | greaterEquals => ">="
  | equals => "=="
  | notEquals => "!="
  | and => "and"
  | or => "or"
  | orElse => "?:"

def isArithmetic : BinaryOperator → Bool
  | plus | minus | times | divide | modulo => true
  | _ => false

def isComparison : BinaryOperator → Bool
  | less | lessEquals | greater | greaterEquals | equals | notEquals => true
  | _ => false

def all : List BinaryOperator :=
  [plus, minus, times, divide, modulo, less, lessEquals, greater, greaterEquals, equals, notEquals, and, or, orElse]

end BinaryOperator

-- How tightly a token binds what stands before it, from the loosest on.
inductive BindingPower where
  | lowest | conditional | logicalOr | logicalAnd | equality | relational
  | additive | multiplicative | unary | member | primary
deriving DecidableEq

namespace BindingPower

def level : BindingPower → Nat
  | lowest => 0
  | conditional => 1
  | logicalOr => 2
  | logicalAnd => 3
  | equality => 4
  | relational => 5
  | additive => 6
  | multiplicative => 7
  | unary => 8
  | member => 9
  | primary => 10

-- Tokens that continue no expression bind as loosely as nothing at all.
def ofKind : TokenKind → BindingPower
  | .elvis | .question => conditional
  | .orWord => logicalOr
  | .andWord => logicalAnd
  | .equals | .notEquals => equality
  | .less | .lessEquals | .greater | .greaterEquals => relational
  | .plus | .dash => additive
  | .star | .slash | .percent => multiplicative
  | .dot | .questionDot | .openBracket | .questionBracket => member
  | _ => lowest

end BindingPower

def BinaryOperator.ofKind? : TokenKind → Option BinaryOperator
  | .plus => some .plus
  | .dash => some .minus
  | .star => some .times
  | .slash => some .divide
  | .percent => some .modulo
  | .less => some .less
  | .lessEquals => some .lessEquals
  | .greater => some .greater
  | .greaterEquals => some .greaterEquals
  | .equals => some .equals
  | .notEquals => some .notEquals
  | .andWord => some .and
  | .orWord => some .or
  | _ => none

end TypedTemplate
