import TypedTemplate.Diagnostic
import TypedTemplate.Expr
import TypedTemplate.Token

namespace TypedTemplate

-- A place in a stream of tokens. The stream ends in an end token, which is kept
-- apart: the cursor can stand on it and never goes past it. `nextId` numbers the
-- expressions found.
structure Cursor where
  rest : List Token
  endValue : String
  endSpan : Span
  previousEnd : Position
  nextId : Nat

namespace Cursor

-- Before the first token. A stream without an end token ends where its last token does.
def start (tokens : List Token) (file : String) : Cursor :=
  let top : Position := ⟨0, file⟩
  match tokens.getLast? with
  | none => ⟨[], TokenKind.eof.spelling, ⟨top, top⟩, top, 0⟩
  | some last =>
    if last.kind = .eof then ⟨tokens.dropLast, last.value, last.span, top, 0⟩
    else ⟨tokens, TokenKind.eof.spelling, ⟨last.span.stop, last.span.stop⟩, top, 0⟩

def size (cursor : Cursor) : Nat := cursor.rest.length

def ending (cursor : Cursor) : Token := ⟨.eof, cursor.endValue, cursor.endSpan⟩

def current (cursor : Cursor) : Token := cursor.rest.headD cursor.ending

def kind (cursor : Cursor) : TokenKind := cursor.current.kind

def position (cursor : Cursor) : Position := cursor.current.span.start

-- The kind some tokens ahead; past the end there are only ends.
def peek (cursor : Cursor) (ahead : Nat) : TokenKind :=
  match cursor.rest[ahead]? with
  | some token => token.kind
  | none => .eof

def hasTokens (cursor : Cursor) : Bool := cursor.kind != .eof

def advance (cursor : Cursor) : Cursor :=
  match cursor.rest with
  | [] => cursor
  | token :: rest => { cursor with rest := rest, previousEnd := token.span.stop }

def mint (cursor : Cursor) : Cursor := { cursor with nextId := cursor.nextId + 1 }

def unexpected (cursor : Cursor) : Diagnostic :=
  ⟨.unexpectedToken cursor.current.value, cursor.position, none⟩

def unexpectedFor (cursor : Cursor) (message : String) : Diagnostic :=
  ⟨.unexpectedTokenDetailed cursor.current.value message, cursor.position, none⟩

def expect (cursor : Cursor) (kind : TokenKind) (otherwise : Diagnostic) : Except Diagnostic Token :=
  if cursor.kind = kind then .ok cursor.current else .error otherwise

theorem size_lt (cursor : Cursor) : cursor.size < cursor.size + 1 := Nat.lt_succ_self _

end Cursor

-- The outcome of reading a piece from a cursor: what was read and the cursor after
-- it, which has fewer than `limit` tokens ahead, or what went wrong and where the
-- cursor stood then. The bound is what lets readers call one another without end in
-- sight: every piece that recurs reads at least one token.
inductive Parsed (limit : Nat) (α : Type) where
  | ok (value : α) (next : Cursor) (shorter : next.size < limit)
  | error (diagnostic : Diagnostic) (stopped : Cursor)

namespace Parsed

variable {α β : Type} {m n : Nat}

def result : Parsed n α → Except Diagnostic α
  | ok value _ _ => .ok value
  | error diagnostic _ => .error diagnostic

def cursor : Parsed n α → Cursor
  | ok _ next _ => next
  | error _ stopped => stopped

def andThen (parsed : Parsed n α) (continuation : (value : α) → (next : Cursor) → next.size < n → Parsed n β) :
    Parsed n β :=
  match parsed with
  | ok value next shorter => continuation value next shorter
  | error diagnostic stopped => error diagnostic stopped

def after (within : m < n) (parsed : Parsed m α)
    (continuation : (value : α) → (next : Cursor) → next.size < n → Parsed n β) : Parsed n β :=
  match parsed with
  | ok value next shorter => continuation value next (Nat.lt_trans shorter within)
  | error diagnostic stopped => error diagnostic stopped

def upTo (within : m < n) (parsed : Parsed (m + 1) α)
    (continuation : (value : α) → (next : Cursor) → next.size < n → Parsed n β) : Parsed n β :=
  match parsed with
  | ok value next shorter => continuation value next (Nat.lt_of_lt_of_le shorter within)
  | error diagnostic stopped => error diagnostic stopped

def loosen (parsed : Parsed n α) : Parsed (n + 1) α :=
  match parsed with
  | ok value next shorter => ok value next (Nat.lt_succ_of_lt shorter)
  | error diagnostic stopped => error diagnostic stopped

theorem cursor_loosen (parsed : Parsed n α) : parsed.loosen.cursor = parsed.cursor := by
  cases parsed <;> rfl

end Parsed

namespace Cursor

def take (cursor : Cursor) : Parsed cursor.size Token :=
  match cursor with
  | ⟨[], _, _, _, _⟩ => .error cursor.unexpected cursor
  | ⟨token :: rest, endValue, endSpan, _, nextId⟩ =>
    .ok token ⟨rest, endValue, endSpan, token.span.stop, nextId⟩ (Nat.lt_succ_self rest.length)

def consume (cursor : Cursor) (kind : TokenKind) : Parsed cursor.size Token :=
  if cursor.kind = kind then cursor.take else .error cursor.unexpected cursor

def consumeFor (cursor : Cursor) (kind : TokenKind) (message : String) : Parsed cursor.size Token :=
  if cursor.kind = kind then cursor.take else .error (cursor.unexpectedFor message) cursor

def build {limit : Nat} (cursor : Cursor) (span : Span) (make : Node → Expr) (shorter : cursor.size < limit) :
    Parsed limit Expr :=
  .ok (make ⟨cursor.nextId, span⟩) cursor.mint shorter

end Cursor
end TypedTemplate
