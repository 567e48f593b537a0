import TypedTemplate.Proofs.Expr.Write
import TypedTemplate.Proofs.TypeExpr.Write
import TypedTemplate.Statement.Parse

namespace TypedTemplate

-- What can be written in more than one way: the floats, the word of a loop, and whether
-- a tag says that it prints.
structure Spelling where
  float : Node → String
  forLoop : Span → Bool
  printWord : Span → Bool

def Spelling.loop (spelling : Spelling) (span : Span) : TokenKind :=
  bif spelling.forLoop span then .forWord else .foreachWord

namespace Statement

def nameParts (name : String) : List String := (name.toList.splitOn '.').map String.ofList

def writeNameTail : List String → List Word
  | [] => []
  | part :: rest => TokenKind.dot.word :: (.identifier, part) :: writeNameTail rest

def writeParts : List String → List Word
  | [] => []
  | first :: rest =>
    if first = "" ∧ rest ≠ [] then writeNameTail rest else (.identifier, first) :: writeNameTail rest

def writeName (name : String) : List Word := writeParts (nameParts name)

def tag (keyword : TokenKind) (words : List Word) : List Word :=
  TokenKind.openCurly.word :: keyword.word :: (words ++ [TokenKind.closeCurly.word])

def closing (keyword : TokenKind) : List Word :=
  [TokenKind.closeTagOpen.word, keyword.word, TokenKind.closeCurly.word]

def paramWord : ParamKind → TokenKind
  | .required => .param
  | .optional => .optionalParam
  | .injected => .inject
  | .optionalInjected => .optionalInject

def writeDirectives : List String → List Word
  | [] => []
  | directive :: rest => TokenKind.pipe.word :: (.identifier, directive) :: writeDirectives rest

-- `print` before what is printed. Before a parenthesis it would be the name of a function.
def announced (asked : Bool) (words : List Word) : List Word :=
  if asked ∧ words.head?.map Prod.fst ≠ some .openParen then (.identifier, "print") :: words else words

mutual
def write (spelling : Spelling) : Statement → List Word
  | text value _ => [(.text, value)]
  | print expr directives span =>
    TokenKind.openCurly.word :: announced (spelling.printWord span)
      (expr.bare spelling.float ++ (writeDirectives directives ++ [TokenKind.closeCurly.word]))
  | param name kind typeExpr _ => tag (paramWord kind) ((.identifier, name) :: TokenKind.colon.word :: typeExpr.write)
  | letValue name value _ =>
    TokenKind.openCurly.word :: TokenKind.letWord.word :: (.variableName, name) :: TokenKind.colon.word ::
      (value.bare spelling.float ++ [TokenKind.selfClose.word])
  | letBlock name body _ => tag .letWord [(.variableName, name)] ++ (writeBlock spelling body ++ closing .letWord)
  | choose branches otherwise _ =>
    writeBranches spelling .ifWord branches ++ (writeOptional spelling .elseWord otherwise ++ closing .ifWord)
  | foreach var iterable body ifEmpty span =>
    tag (spelling.loop span) ((.variableName, var) :: TokenKind.inWord.word :: iterable.bare spelling.float) ++
      (writeBlock spelling body ++ (writeOptional spelling .ifemptyWord ifEmpty ++ closing (spelling.loop span)))

def writeBlock (spelling : Spelling) : List Statement → List Word
  | [] => []
  | statement :: rest => write spelling statement ++ writeBlock spelling rest

def writeBranches (spelling : Spelling) (keyword : TokenKind) : List (Branch (List Statement)) → List Word
  | [] => []
  | ⟨condition, body, _⟩ :: rest =>
    tag keyword (condition.bare spelling.float) ++ (writeBlock spelling body ++ writeBranches spelling .elseifWord rest)

def writeOptional (spelling : Spelling) (keyword : TokenKind) : Option (List Statement) → List Word
  | none => []
  | some body => tag keyword [] ++ writeBlock spelling body
end

-- The statements that tags can say: an annotation has a spelling of its own, and a choice
-- has a branch.
mutual
def Proper : Statement → Prop
  | text .. | print .. | letValue .. => True
  | param _ _ typeExpr _ => typeExpr.Proper
  | letBlock _ body _ => BodyProper body
  | choose branches otherwise _ => branches ≠ [] ∧ BranchesProper branches ∧ OptionalProper otherwise
  | foreach _ _ body ifEmpty _ => BodyProper body ∧ OptionalProper ifEmpty

def BodyProper : List Statement → Prop
  | [] => True
  | statement :: rest => statement.Proper ∧ BodyProper rest

def BranchesProper : List (Branch (List Statement)) → Prop
  | [] => True
  | ⟨_, body, _⟩ :: rest => BodyProper body ∧ BranchesProper rest

def OptionalProper : Option (List Statement) → Prop
  | none => True
  | some body => BodyProper body
end

mutual
def shape : Statement → Statement
  | text value _ => text value .nowhere
  | print expr directives _ => print expr.shape directives .nowhere
  | param name kind typeExpr _ => param name kind typeExpr.shape .nowhere
  | letValue name value _ => letValue name value.shape .nowhere
  | letBlock name body _ => letBlock name (shapes body) .nowhere
  | choose branches otherwise _ => choose (branchShapes branches) (optionalShape otherwise) .nowhere
  | foreach var iterable body ifEmpty _ => foreach var iterable.shape (shapes body) (optionalShape ifEmpty) .nowhere

def shapes : List Statement → List Statement
  | [] => []
  | statement :: rest => statement.shape :: shapes rest

def branchShapes : List (Branch (List Statement)) → List (Branch (List Statement))
  | [] => []
  | ⟨condition, body, _⟩ :: rest => ⟨condition.shape, shapes body, .nowhere⟩ :: branchShapes rest

def optionalShape : Option (List Statement) → Option (List Statement)
  | none => none
  | some body => some (shapes body)
end

end Statement
end TypedTemplate
