import Mathlib.Logic.Relation
import TypedTemplate.Proofs.Token.Passage

namespace TypedTemplate

def Token.withEnd (tokens : List Token) (file : String) : List Token :=
  match tokens.getLast? with
  | none => [atEnd ⟨0, file⟩]
  | some last => if last.kind = .eof then tokens else tokens ++ [atEnd last.span.stop]

theorem Token.withEnd_ends (tokens : List Token) (file : String) :
    ∃ front ending, withEnd tokens file = front ++ [ending] ∧ ending.kind = .eof := by
  unfold withEnd
  split
  · exact ⟨[], _, rfl, rfl⟩
  · rename_i last found
    split
    · rename_i ends
      obtain ⟨front, rfl⟩ := List.getLast?_eq_some_iff.mp found
      exact ⟨front, last, rfl, ends⟩
    · exact ⟨tokens, _, rfl, rfl⟩

namespace Cursor

inductive Step : Cursor → Cursor → Prop
  | advance {cursor : Cursor} : Step cursor cursor.advance
  | mint {cursor : Cursor} : Step cursor cursor.mint

def Moves : Cursor → Cursor → Prop := Relation.ReflTransGen Step

-- At a place of a stream: what is ahead starts there, and what is before it has been passed.
structure Stands (stream : List Token) (file : String) (index : Nat) (cursor : Cursor) : Prop where
  ahead : cursor.ahead = stream.drop index
  behind : cursor.previousEnd = Token.stopAfter ⟨0, file⟩ (stream.take index)

variable {stream : List Token} {file : String} {index : Nat} {cursor next : Cursor}

theorem ahead_start_eq (tokens : List Token) (file : String) : (start tokens file).ahead = Token.withEnd tokens file := by
  rw [start, Token.withEnd]
  cases found : tokens.getLast? with
  | none => rfl
  | some last =>
    obtain ⟨front, rfl⟩ := List.getLast?_eq_some_iff.mp found
    obtain ⟨kind, value, span⟩ := last
    by_cases ends : kind = .eof
    · subst ends
      simp [ahead, ending]
    · simp [ahead, ending, ends, Token.atEnd]

theorem stands_start (tokens : List Token) (file : String) :
    (start tokens file).Stands (Token.withEnd tokens file) file 0 := by
  refine ⟨ahead_start_eq tokens file, ?_⟩
  rw [start]
  split
  · rfl
  · split <;> rfl

namespace Stands

theorem left (standing : cursor.Stands stream file index) : index + cursor.size + 1 = stream.length := by
  have same := congrArg List.length standing.ahead
  rw [Cursor.ahead, List.length_append, List.length_singleton, List.length_drop] at same
  rw [size]
  omega

theorem inside (standing : cursor.Stands stream file index) : index < stream.length := by
  have same := standing.left
  omega

theorem current (standing : cursor.Stands stream file index) : stream[index]? = some cursor.current := by
  rw [← Nat.add_zero index, ← List.getElem?_drop, ← standing.ahead, Cursor.ahead, Cursor.current]
  cases cursor.rest <;> rfl

theorem peek (standing : cursor.Stands stream file index) (offset : Nat) :
    cursor.peek offset = (stream[index + offset]?.map Token.kind).getD .eof := by
  rw [← List.getElem?_drop, ← standing.ahead, Cursor.ahead, Cursor.peek, List.getElem?_append]
  split
  · rename_i token found
    obtain ⟨within, -⟩ := List.getElem?_eq_some_iff.mp found
    rw [if_pos within, found]
    rfl
  · rename_i none
    rw [if_neg (Nat.not_lt.mpr (List.getElem?_eq_none_iff.mp none))]
    cases offset - cursor.rest.length <;> rfl

theorem advance (standing : cursor.Stands stream file index) (any : cursor.rest ≠ []) :
    cursor.advance.Stands stream file (index + 1) := by
  obtain ⟨rest, endValue, endSpan, previousEnd, nextId⟩ := cursor
  cases rest with
  | nil => contradiction
  | cons token rest =>
    constructor
    · rw [← List.tail_drop, ← standing.ahead]
      rfl
    · rw [List.take_add_one, standing.current, Token.stopAfter, List.foldl_append]
      rfl

theorem step (standing : cursor.Stands stream file index) (stepped : Step cursor next) :
    ∃ later, index ≤ later ∧ later ≤ index + 1 ∧ next.Stands stream file later := by
  cases stepped with
  | advance =>
    by_cases any : cursor.rest = []
    · refine ⟨index, Nat.le_refl _, Nat.le_succ _, ?_⟩
      have stays : cursor.advance = cursor := by rw [Cursor.advance, any]
      rwa [stays]
    · exact ⟨index + 1, Nat.le_succ _, Nat.le_refl _, standing.advance any⟩
  | mint => exact ⟨index, Nat.le_refl _, Nat.le_succ _, standing.ahead, standing.behind⟩

theorem moves (standing : cursor.Stands stream file index) (moved : cursor.Moves next) :
    ∃ later, index ≤ later ∧ next.Stands stream file later := by
  induction moved with
  | refl => exact ⟨index, Nat.le_refl _, standing⟩
  | tail _ stepped ih =>
    obtain ⟨middle, le, standing⟩ := ih
    obtain ⟨later, le', -, standing⟩ := standing.step stepped
    exact ⟨later, Nat.le_trans le le', standing⟩

end Stands
end Cursor

namespace Parsed

open Cursor (Moves)

variable {α β : Type} {m n : Nat} {origin cursor : Cursor}

def From (parsed : Parsed n α) (origin : Cursor) : Prop := origin.Moves parsed.cursor

-- In a stream: a piece that was read has at least one token, and a reader that fails is not
-- behind the place where it started.
def Lands (parsed : Parsed n α) (stream : List Token) (file : String) (index : Nat) : Prop :=
  match parsed with
  | ok _ next _ => ∃ later, index < later ∧ next.Stands stream file later
  | error _ stopped => ∃ later, index ≤ later ∧ stopped.Stands stream file later

section

variable {parsed : Parsed n α}

theorem From.andThen {continuation : (value : α) → (next : Cursor) → next.size < n → Parsed n β}
    (first : parsed.From origin)
    (rest : ∀ value next shorter, origin.Moves next → (continuation value next shorter).From origin) :
    (parsed.andThen continuation).From origin := by
  cases parsed with
  | ok value next shorter => exact rest value next shorter first
  | error diagnostic stopped => exact first

theorem From.after {continuation : (value : α) → (next : Cursor) → next.size < m → Parsed m β} {within : n < m}
    (first : parsed.From origin)
    (rest : ∀ value next shorter, origin.Moves next → (continuation value next shorter).From origin) :
    (parsed.after within continuation).From origin := by
  cases parsed with
  | ok value next shorter => exact rest value next _ first
  | error diagnostic stopped => exact first

theorem From.upTo {parsed : Parsed (n + 1) α}
    {continuation : (value : α) → (next : Cursor) → next.size < m → Parsed m β} {within : n < m}
    (first : parsed.From origin)
    (rest : ∀ value next shorter, origin.Moves next → (continuation value next shorter).From origin) :
    (parsed.upTo within continuation).From origin := by
  cases parsed with
  | ok value next shorter => exact rest value next _ first
  | error diagnostic stopped => exact first

theorem From.loosen (first : parsed.From origin) : parsed.loosen.From origin := by
  rwa [From, cursor_loosen]

theorem From.lands {stream : List Token} {file : String} {index : Nat} {parsed : Parsed cursor.size α}
    (first : parsed.From cursor) (standing : cursor.Stands stream file index) : parsed.Lands stream file index := by
  obtain ⟨later, le, standing'⟩ := standing.moves first
  cases parsed with
  | ok value next shorter =>
    refine ⟨later, ?_, standing'⟩
    have ahead := standing.left
    have ahead' : later + next.size + 1 = stream.length := standing'.left
    omega
  | error diagnostic stopped => exact ⟨later, le, standing'⟩

end
end Parsed

namespace Cursor

open Parsed

variable {origin cursor : Cursor}

theorem take_from (reached : origin.Moves cursor) : cursor.take.From origin := by
  match cursor with
  | ⟨[], endValue, endSpan, previousEnd, nextId⟩ => exact reached
  | ⟨token :: rest, endValue, endSpan, previousEnd, nextId⟩ => exact reached.tail .advance

theorem consume_from (reached : origin.Moves cursor) (kind : TokenKind) : (cursor.consume kind).From origin := by
  unfold consume
  split
  · exact take_from reached
  · exact reached

theorem consumeFor_from (reached : origin.Moves cursor) (kind : TokenKind) (message : String) :
    (cursor.consumeFor kind message).From origin := by
  unfold consumeFor
  split
  · exact take_from reached
  · exact reached

theorem build_from {limit : Nat} {span : Span} {make : Node → Expr} {shorter : cursor.size < limit}
    (reached : origin.Moves cursor) : (cursor.build span make shorter).From origin := reached.tail .mint

end Cursor
end TypedTemplate
