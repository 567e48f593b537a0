import TypedTemplate.Expr.Parse
import TypedTemplate.Statement
import TypedTemplate.TypeExpr.Parse

namespace TypedTemplate.Statement

open Parsed

-- Names with points in them; that of a template may start with one.
def parseNameTail (cursor : Cursor) : Parsed (cursor.size + 1) String :=
  if cursor.kind = .dot then
    loosen <| (cursor.consume .dot).andThen fun _ next h =>
    after h (next.consume .identifier) fun part later h =>
    upTo h (parseNameTail later) fun tail done h => .ok ("." ++ part.value ++ tail) done h
  else .ok "" cursor cursor.size_lt
termination_by cursor.size

def parseBareName (cursor : Cursor) : Parsed cursor.size String :=
  (cursor.consume .identifier).andThen fun first next h =>
  upTo h (parseNameTail next) fun tail done h => .ok (first.value ++ tail) done h

def parseName (cursor : Cursor) : Parsed cursor.size String :=
  if cursor.kind = .dot then
    (cursor.consume .dot).andThen fun _ next h =>
    after h (parseBareName next) fun name done h => .ok ("." ++ name) done h
  else parseBareName cursor

def parseAttributes (cursor : Cursor) : Parsed (cursor.size + 1) Unit :=
  if cursor.kind = .identifier then
    loosen <| (cursor.consume .identifier).andThen fun _ afterName h =>
    after h (afterName.consume .assignment) fun _ afterSign h =>
    after h (afterSign.consume .string) fun _ next h => upTo h (parseAttributes next) .ok
  else .ok () cursor cursor.size_lt
termination_by cursor.size

def parseClosing (keyword : TokenKind) (cursor : Cursor) : Parsed cursor.size Unit :=
  (cursor.consumeFor .closeTagOpen ("expected closing tag for `" ++ keyword.name ++ "`")).andThen fun _ word h =>
  after h (word.consume keyword) fun _ last h =>
  after h (last.consume .closeCurly) fun _ done h => .ok () done h

def paramKind : TokenKind → ParamKind
  | .optionalParam => .optional
  | .inject => .injected
  | .optionalInject => .optionalInjected
  | _ => .required

def parseParam (cursor : Cursor) : Parsed cursor.size Statement :=
  cursor.take.andThen fun opening keyword h =>
  after h keyword.take fun declared nameStart h =>
  after h (nameStart.consumeFor .identifier "expected parameter name") fun name afterName h =>
  after h (afterName.consume .colon) fun _ typeStart h =>
  after h (TypeExpr.parse typeStart) fun typeExpr last h =>
  after h (last.consume .closeCurly) fun _ done h =>
    .ok (param name.value (paramKind declared.kind) typeExpr ⟨opening.span.start, done.previousEnd⟩) done h

def parseDirectiveArguments (cursor : Cursor) : Parsed (cursor.size + 1) Unit :=
  if cursor.kind = .comma then
    loosen <| (cursor.consume .comma).andThen fun _ next h =>
    after h (Expr.parse .lowest next) fun _ later h => upTo h (parseDirectiveArguments later) .ok
  else .ok () cursor cursor.size_lt
termination_by cursor.size

def parseDirectives (cursor : Cursor) : Parsed (cursor.size + 1) (List String) :=
  if cursor.kind = .pipe then
    loosen <| (cursor.consume .pipe).andThen fun _ nameStart h =>
    after h (nameStart.consumeFor .identifier "expected print directive name") fun name afterName h =>
      if afterName.kind = .colon then
        after h (afterName.consume .colon) fun _ argumentStart h =>
        after h (Expr.parse .lowest argumentStart) fun _ more h =>
        upTo h (parseDirectiveArguments more) fun _ next h =>
        upTo h (parseDirectives next) fun rest done h => .ok (name.value :: rest) done h
      else
        upTo h (parseDirectives afterName) fun rest done h => .ok (name.value :: rest) done h
  else .ok [] cursor cursor.size_lt
termination_by cursor.size

def parsePrinted (opening : Token) (cursor : Cursor) : Parsed cursor.size Statement :=
  (Expr.parse .lowest cursor).andThen fun expr afterExpr h =>
  upTo h (parseDirectives afterExpr) fun directives last h =>
  after h (last.consume .closeCurly) fun _ done h =>
    .ok (print expr directives ⟨opening.span.start, done.previousEnd⟩) done h

-- Before a parenthesis `print` is the name of a function, elsewhere that of the tag.
def parsePrint (cursor : Cursor) : Parsed cursor.size Statement :=
  cursor.take.andThen fun opening next h =>
    if next.kind = .identifier ∧ next.current.value = "print" ∧ next.peek 1 ≠ .openParen then
      after h (next.consume .identifier) fun _ exprStart h => after h (parsePrinted opening exprStart) .ok
    else after h (parsePrinted opening next) .ok

def atBlockEnd (cursor : Cursor) : Bool :=
  match cursor.kind with
  | .closeTagOpen => true
  | .openCurly =>
    match cursor.peek 1 with
    | .elseifWord | .elseWord | .ifemptyWord => true
    | _ => false
  | _ => false

-- Reading the statements of a template body. The word after an opening brace tells
-- which one it is.
mutual
def parse (cursor : Cursor) : Parsed cursor.size Statement :=
  match cursor.kind with
  | .text => cursor.take.andThen fun token next h => .ok (text token.value token.span) next h
  | .openCurly =>
    match cursor.peek 1 with
    | .param | .optionalParam | .inject | .optionalInject => parseParam cursor
    | .letWord => parseLet cursor
    | .ifWord => parseIf cursor
    | .foreachWord | .forWord => parseForeach cursor
    | _ => parsePrint cursor
  | _ => .error (cursor.unexpectedFor "expected text or a tag") cursor
termination_by 5 * cursor.size + 1

def parseBlock (cursor : Cursor) : Parsed (cursor.size + 1) (List Statement) :=
  if atBlockEnd cursor then .ok [] cursor cursor.size_lt
  else if !cursor.hasTokens then .error (cursor.unexpectedFor "unclosed block") cursor
  else
    loosen <| (parse cursor).andThen fun statement next h =>
    upTo h (parseBlock next) fun rest done h => .ok (statement :: rest) done h
termination_by 5 * cursor.size + 2

def parseLet (cursor : Cursor) : Parsed cursor.size Statement :=
  cursor.take.andThen fun opening keyword h =>
  after h keyword.take fun _ nameStart h =>
  after h (nameStart.consumeFor .variableName "expected variable after `let`") fun name afterName h =>
    if afterName.kind = .colon then
      after h (afterName.consume .colon) fun _ valueStart h =>
      after h (Expr.parse .lowest valueStart) fun value last h =>
      after h (last.consume .selfClose) fun _ done h =>
        .ok (letValue name.value value ⟨opening.span.start, done.previousEnd⟩) done h
    else
      upTo h (parseAttributes afterName) fun _ last h =>
      after h (last.consume .closeCurly) fun _ bodyStart h =>
      upTo h (parseBlock bodyStart) fun body closing h =>
      after h (parseClosing .letWord closing) fun _ done h =>
        .ok (letBlock name.value body ⟨opening.span.start, done.previousEnd⟩) done h
termination_by 5 * cursor.size

def parseIf (cursor : Cursor) : Parsed cursor.size Statement :=
  cursor.take.andThen fun opening keyword h =>
  after h keyword.take fun _ conditionStart h =>
  after h (parseBranch opening.span.start conditionStart) fun first next h =>
  upTo h (parseBranches next) fun (rest, otherwise) closing h =>
  after h (parseClosing .ifWord closing) fun _ done h =>
    .ok (choose (first :: rest) otherwise ⟨opening.span.start, done.previousEnd⟩) done h
termination_by 5 * cursor.size

def parseBranch (start : Position) (cursor : Cursor) : Parsed cursor.size (Branch (List Statement)) :=
  (Expr.parse .lowest cursor).andThen fun condition last h =>
  after h (last.consume .closeCurly) fun _ bodyStart h =>
  upTo h (parseBlock bodyStart) fun body done h =>
    .ok ⟨condition, body, ⟨start, done.previousEnd⟩⟩ done h
termination_by 5 * cursor.size

-- What continues a chain of conditions. Nothing does after an `else`.
def parseBranches (cursor : Cursor) :
    Parsed (cursor.size + 1) (List (Branch (List Statement)) × Option (List Statement)) :=
  if cursor.kind = .openCurly ∧ cursor.peek 1 = .elseifWord then
    loosen <| cursor.take.andThen fun opening keyword h =>
    after h keyword.take fun _ conditionStart h =>
    after h (parseBranch opening.span.start conditionStart) fun branch next h =>
    upTo h (parseBranches next) fun (rest, otherwise) done h => .ok (branch :: rest, otherwise) done h
  else if cursor.kind = .openCurly ∧ cursor.peek 1 = .elseWord then
    loosen <| cursor.take.andThen fun _ keyword h =>
    after h keyword.take fun _ last h =>
    after h (last.consume .closeCurly) fun _ bodyStart h =>
    upTo h (parseBlock bodyStart) fun body done h => .ok ([], some body) done h
  else .ok ([], none) cursor cursor.size_lt
termination_by 5 * cursor.size

-- The two spellings of a loop are each closed by their own.
def parseForeach (cursor : Cursor) : Parsed cursor.size Statement :=
  cursor.take.andThen fun opening keyword h =>
  after h keyword.take fun word varStart h =>
  after h (varStart.consumeFor .variableName "expected loop variable") fun name afterName h =>
  after h (afterName.consume .inWord) fun _ iterableStart h =>
  after h (Expr.parse .lowest iterableStart) fun iterable last h =>
  after h (last.consume .closeCurly) fun _ bodyStart h =>
  upTo h (parseBlock bodyStart) fun body next h =>
  upTo h (parseIfEmpty next) fun ifEmpty closing h =>
  after h (parseClosing word.kind closing) fun _ done h =>
    .ok (foreach name.value iterable body ifEmpty ⟨opening.span.start, done.previousEnd⟩) done h
termination_by 5 * cursor.size

def parseIfEmpty (cursor : Cursor) : Parsed (cursor.size + 1) (Option (List Statement)) :=
  if cursor.kind = .openCurly ∧ cursor.peek 1 = .ifemptyWord then
    loosen <| cursor.take.andThen fun _ keyword h =>
    after h keyword.take fun _ last h =>
    after h (last.consume .closeCurly) fun _ bodyStart h =>
    upTo h (parseBlock bodyStart) fun body done h => .ok (some body) done h
  else .ok none cursor cursor.size_lt
termination_by 5 * cursor.size
end

end TypedTemplate.Statement
