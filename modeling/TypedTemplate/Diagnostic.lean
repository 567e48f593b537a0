import TypedTemplate.Source
import TypedTemplate.Text

namespace TypedTemplate

inductive Fault where
  | unrecognisedToken (token : String)
  | unexpectedToken (token : String)
  | unexpectedTokenDetailed (token message : String)
  | numberParseError (token : String)
  | undefinedName (name : String)
  | duplicateDeclaration (name : String)
  | duplicateKey (key : String)
  | invalidKeyType (expected found : String)
  | undefinedField (field container : String)
  | badOperandType (operator operands : String)
  | unknownType (type : String)
  | undefinedFunction (function : String)
  | unexpectedArguments (expected received : Nat)
  | missingArguments (expected received : Nat)
  | argumentTypeMismatch (expected received : String)
deriving DecidableEq

namespace Fault

def name : Fault → String
  | unrecognisedToken _ => "UnrecognisedToken"
  | unexpectedToken _ => "UnexpectedToken"
  | unexpectedTokenDetailed _ _ => "UnexpectedTokenDetailed"
  | numberParseError _ => "NumberParseError"
  | undefinedName _ => "UndefinedName"
  | duplicateDeclaration _ => "DuplicateDeclaration"
  | duplicateKey _ => "DuplicateKey"
  | invalidKeyType _ _ => "InvalidKeyType"
  | undefinedField _ _ => "UndefinedField"
  | badOperandType _ _ => "BadOperandType"
  | unknownType _ => "UnknownType"
  | undefinedFunction _ => "UndefinedFunction"
  | unexpectedArguments _ _ => "UnexpectedArguments"
  | missingArguments _ _ => "MissingArguments"
  | argumentTypeMismatch _ _ => "ArgumentTypeMatchError"

-- What happened, in one line. Pieces of source are quoted, types are not.
def message : Fault → String
  | unrecognisedToken token => "unrecognised token: " ++ Text.quoted token
  | unexpectedToken token => "unexpected token: " ++ Text.quoted token
  | unexpectedTokenDetailed token message => "unexpected token (" ++ message ++ "): " ++ Text.quoted token
  | numberParseError token => "error parsing number: " ++ Text.quoted token
  | undefinedName name => "undefined name: $" ++ name
  | duplicateDeclaration name => "duplicate declaration of " ++ Text.quoted name
  | duplicateKey key => "duplicate key " ++ Text.quoted key
  | invalidKeyType expected found => "invalid key type: expected " ++ expected ++ ", found " ++ found
  | undefinedField field container => "undefined field " ++ Text.quoted field ++ " for type " ++ container
  | badOperandType operator operands => "bad operand type for " ++ Text.quoted operator ++ ": " ++ operands
  | unknownType type => "unknown type " ++ type ++ " found"
  | undefinedFunction function => "undefined function " ++ Text.quoted function
  | unexpectedArguments expected received =>
    "unexpected arguments: expected " ++ toString expected ++ ", received " ++ toString received
  | missingArguments expected received =>
    "missing arguments: expected " ++ toString expected ++ ", received " ++ toString received
  | argumentTypeMismatch expected received =>
    "argument types do not match: expected " ++ expected ++ ", received " ++ received

def inTicks (text : String) : String := "`" ++ text ++ "`"

-- A hint for the author of the template; a character that starts no token has none.
def tip : Fault → Option String
  | unrecognisedToken _ => none
  | unexpectedToken token => some ("Unexpected token: " ++ inTicks token ++ ", is a tag left unclosed?")
  | unexpectedTokenDetailed token message => some ("Unexpected token: " ++ inTicks token ++ ", " ++ message)
  | numberParseError token => some ("Invalid number: " ++ inTicks token ++ ", is it above the integer limit?")
  | undefinedName name => some (inTicks ("$" ++ name) ++ " is not a declared parameter or local variable")
  | duplicateDeclaration name => some (inTicks name ++ " is already declared in this scope")
  | duplicateKey key => some ("Key " ++ inTicks key ++ " appears more than once")
  | invalidKeyType expected found =>
    some ("Expected a key assignable to " ++ inTicks expected ++ ", found " ++ inTicks found)
  | undefinedField field container => some ("Type " ++ inTicks container ++ " has no field " ++ inTicks field)
  | badOperandType operator operands =>
    some ("Operator " ++ inTicks operator ++ " cannot be applied to " ++ inTicks operands)
  | unknownType type => some ("Unknown type " ++ inTicks type ++ " found")
  | undefinedFunction function => some ("Function " ++ inTicks function ++ " is not registered")
  | unexpectedArguments expected received | missingArguments expected received =>
    some ("Expected " ++ toString expected ++ " arguments, received " ++ toString received)
  | argumentTypeMismatch expected received =>
    some ("Expected argument type " ++ inTicks expected ++ ", received " ++ inTicks received)

end Fault

structure Diagnostic where
  fault : Fault
  position : Position
  node : Option Nat
deriving DecidableEq

namespace Diagnostic

def headline (fault : Fault) : String :=
  match fault.tip with
  | none => "Error: " ++ fault.name ++ "\n"
  | some tip => "Error: " ++ fault.name ++ " (" ++ tip ++ ")\n"

-- The line under its number, without the spaces it starts with, and a caret below
-- the place. A place inside those spaces is shown at the start of the line.
def excerpt (line : Source.Line) : String :=
  let number := toString line.number
  let indent := (line.text.takeWhile (· == ' ')).length
  let shown := Text.trimEnd (line.text.drop indent)
  let bar := String.ofList (List.leftpad (number.length + 2) ' ' ['|'])
  let caret := String.ofList (List.leftpad (line.column - indent + 1) '-' ['^'])
  bar ++ "\n" ++ number ++ " | " ++ String.ofList shown ++ "\n" ++ bar ++ " " ++ caret ++ "\n"

-- A diagnostic as shown beside its source; a place past the end shows no line.
def render (source : String) (diagnostic : Diagnostic) : String :=
  headline diagnostic.fault ++ "-> " ++ diagnostic.position.file ++ "\n" ++
    match Source.lineAt source diagnostic.position.offset with
    | none => ""
    | some line => excerpt line

end Diagnostic

end TypedTemplate
