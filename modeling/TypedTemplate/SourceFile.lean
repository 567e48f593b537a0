import TypedTemplate.Statement.Check
import TypedTemplate.Statement.Parse
import TypedTemplate.Token.Stream

namespace TypedTemplate

structure Template where
  name : String
  body : List Statement
  span : Span

structure SourceFile where
  packageName : Option String
  templates : List Template
  version : Version

namespace SourceFile

-- Every expression of the file, each after its parts, in source order.
def expressions (file : SourceFile) : List Expr :=
  file.templates.flatMap fun template => (Statement.bodyExpressions template.body).flatMap Expr.subterms

def printed (file : SourceFile) : List Expr :=
  file.templates.flatMap fun template => Statement.bodyPrinted template.body

open Parsed Statement

def parsePackageName (cursor : Cursor) : Parsed cursor.size String :=
  (cursor.consume .openCurly).andThen fun _ keyword h =>
  after h (keyword.consume .namespaceWord) fun _ nameStart h =>
  after h (parseName nameStart) fun name afterName h =>
  upTo h (parseAttributes afterName) fun _ last h =>
  after h (last.consume .closeCurly) fun _ done h => .ok name done h

def parseTemplate (cursor : Cursor) : Parsed cursor.size Template :=
  (cursor.consume .openCurly).andThen fun opening keyword h =>
  after h (keyword.consume .templateWord) fun _ nameStart h =>
  after h (parseName nameStart) fun name afterName h =>
  upTo h (parseAttributes afterName) fun _ last h =>
  after h (last.consume .closeCurly) fun _ bodyStart h =>
  upTo h (parseBlock bodyStart) fun body closing h =>
  after h (parseClosing .templateWord closing) fun _ done h =>
    .ok ⟨name, body, ⟨opening.span.start, done.previousEnd⟩⟩ done h

-- The name of the package, the last one if several are given, and the templates.
-- Text between the tags does not count, and an end token ends the file.
def parseRest (version : Version) (packageName : Option String) (cursor : Cursor) :
    Parsed (cursor.size + 1) SourceFile :=
  if !cursor.hasTokens then .ok ⟨packageName, [], version⟩ cursor cursor.size_lt
  else if cursor.kind = .text then
    loosen <| (cursor.consume .text).andThen fun _ next h => upTo h (parseRest version packageName next) .ok
  else if cursor.kind = .openCurly ∧ cursor.peek 1 = .namespaceWord then
    loosen <| (parsePackageName cursor).andThen fun name next h => upTo h (parseRest version (some name) next) .ok
  else if cursor.kind = .openCurly ∧ cursor.peek 1 = .templateWord then
    loosen <| (parseTemplate cursor).andThen fun template next h =>
    upTo h (parseRest version packageName next) fun file done h =>
      .ok { file with templates := template :: file.templates } done h
  else
    .error (cursor.unexpectedFor "expected `\x7bnamespace\x7d` or `\x7btemplate\x7d`") cursor
termination_by cursor.size

def parse (tokens : List Token) (file : String) (version : Version) : Except Diagnostic SourceFile :=
  (parseRest version none (.start tokens file)).result

-- Each template is checked from an empty scope. Checking never stops: it finds a
-- type for every expression, the unknown one where something is wrong.
def check (file : SourceFile) (typeNamed : String → Option Ty) (signature : String → Option Signature) : Log :=
  .concat (file.templates.map fun template =>
    (Statement.checkBlock ⟨typeNamed, signature, file.version⟩ .empty template.body).log)

def printedTypes (file : SourceFile) (log : Log) : List Ty :=
  file.printed.map fun expr => (log.typeOf expr.id).getD .unknown

def ofSource (source file : String) (version : Version) : Except Diagnostic SourceFile :=
  match Token.tokenize source file with
  | .error diagnostic => .error diagnostic
  | .ok tokens => parse tokens file version

def checkSource (source file : String) (version : Version) (typeNamed : String → Option Ty)
    (signature : String → Option Signature) : Except Diagnostic (SourceFile × Log) :=
  (ofSource source file version).map fun parsed => (parsed, parsed.check typeNamed signature)

end SourceFile
end TypedTemplate
