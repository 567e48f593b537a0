import TypedTemplate.Source

namespace TypedTemplate

inductive TokenKind where
  | eof
  -- Raw text, and the tokens whose value is not settled by their kind.
  | text | number | string | identifier | variableName
  | openCurly | closeTagOpen | closeCurly | selfClose
  | openBracket | closeBracket | openParen | closeParen
  | assignment | equals | notEquals | less | lessEquals | greater | greaterEquals
  | dot | questionDot | questionBracket | elvis | question | colon | comma | pipe
  | plus | dash | slash | star | percent
  | param | optionalParam | inject | optionalInject
  | andWord | orWord | notWord | nullWord | trueWord | falseWord
  | ifWord | elseifWord | elseWord | foreachWord | forWord | inWord | ifemptyWord
  | letWord | namespaceWord | templateWord
deriving DecidableEq

namespace TokenKind

def name : TokenKind → String
  | eof => "EOF" | text => "Text" | number => "Number" | string => "String"
  | identifier => "Identifier" | variableName => "Variable"
  | openCurly => "OpenCurly" | closeTagOpen => "CloseTagOpen" | closeCurly => "CloseCurly"
  | selfClose => "SelfClose" | openBracket => "OpenBracket" | closeBracket => "CloseBracket"
  | openParen => "OpenParen" | closeParen => "CloseParen" | assignment => "Assignment"
  | equals => "Equals" | notEquals => "NotEquals" | less => "Less" | lessEquals => "LessEquals"
  | greater => "Greater" | greaterEquals => "GreaterEquals" | dot => "Dot" | questionDot => "QuestionDot"
  | questionBracket => "QuestionBracket" | elvis => "Elvis" | question => "Question" | colon => "Colon"
  | comma => "Comma" | pipe => "Pipe" | plus => "Plus" | dash => "Dash" | slash => "Slash"
  | star => "Star" | percent => "Percent" | param => "Param" | optionalParam => "OptionalParam"
  | inject => "Inject" | optionalInject => "OptionalInject" | andWord => "And" | orWord => "Or"
  | notWord => "Not" | nullWord => "Null" | trueWord => "True" | falseWord => "False" | ifWord => "If"
  | elseifWord => "Elseif" | elseWord => "Else" | foreachWord => "Foreach" | forWord => "For"
  | inWord => "In" | ifemptyWord => "Ifempty" | letWord => "Let" | namespaceWord => "Namespace"
  | templateWord => "Template"

-- How a kind is written, where there is one way to write it. The end of input has a
-- spelling to show in messages and is written as nothing.
def spelling : TokenKind → String
  | eof => "EOF"
  | text | number | string | identifier | variableName => ""
  | openCurly => "\x7b" | closeTagOpen => "\x7b/" | closeCurly => "\x7d" | selfClose => "/\x7d"
  | openBracket => "[" | closeBracket => "]" | openParen => "(" | closeParen => ")"
  | assignment => "=" | equals => "==" | notEquals => "!="
  | less => "<" | lessEquals => "<=" | greater => ">" | greaterEquals => ">="
  | dot => "." | questionDot => "?." | questionBracket => "?[" | elvis => "?:" | question => "?"
  | colon => ":" | comma => "," | pipe => "|"
  | plus => "+" | dash => "-" | slash => "/" | star => "*" | percent => "%"
  | param => "@param" | optionalParam => "@param?" | inject => "@inject" | optionalInject => "@inject?"
  | andWord => "and" | orWord => "or" | notWord => "not" | nullWord => "null" | trueWord => "true"
  | falseWord => "false" | ifWord => "if" | elseifWord => "elseif" | elseWord => "else"
  | foreachWord => "foreach" | forWord => "for" | inWord => "in" | ifemptyWord => "ifempty"
  | letWord => "let" | namespaceWord => "namespace" | templateWord => "template"

-- Inside a tag, in the order they are tried: a spelling comes before those it extends.
def punctuation : List TokenKind :=
  [selfClose, closeCurly, optionalParam, param, optionalInject, inject,
   openBracket, closeBracket, openParen, closeParen,
   equals, notEquals, assignment, lessEquals, less, greaterEquals, greater,
   questionDot, questionBracket, elvis, question, dot, colon, comma, pipe,
   plus, dash, slash, star, percent]

def reserved : List TokenKind :=
  [andWord, orWord, notWord, nullWord, trueWord, falseWord, ifWord, elseifWord, elseWord,
   foreachWord, forWord, inWord, ifemptyWord, letWord, namespaceWord, templateWord]

def all : List TokenKind :=
  [eof, text, number, string, identifier, variableName, openCurly, closeTagOpen] ++ punctuation ++ reserved

def opensTag : TokenKind → Bool
  | openCurly | closeTagOpen => true
  | _ => false

def closesTag : TokenKind → Bool
  | closeCurly | selfClose => true
  | _ => false

theorem mem_all (kind : TokenKind) : kind ∈ all := by cases kind <;> decide

end TokenKind

structure Token where
  kind : TokenKind
  value : String
  span : Span
deriving DecidableEq

namespace Token

def text (token : Token) : String :=
  "Token \x7b\nkind: " ++ token.kind.name ++ ",\nvalue: " ++ token.value ++ "\x7d"

def isOneOf (token : Token) (kinds : List TokenKind) : Bool := kinds.contains token.kind

def atEnd (position : Position) : Token := ⟨.eof, TokenKind.eof.spelling, ⟨position, position⟩⟩

end Token

end TypedTemplate
