import TypedTemplate.Proofs.Token.Cursor
import TypedTemplate.Proofs.Token.Word

namespace TypedTemplate

def Token.stopAfter (before : Position) (tokens : List Token) : Position :=
  tokens.foldl (fun _ token => token.span.stop) before

def Token.Inner (tokens : List Token) : Prop := ∀ token ∈ tokens, token.kind ≠ .eof

def Token.beforeEnd (tokens : List Token) : List Token := tokens.takeWhile (·.kind != .eof)

section

variable {token : Token} {tokens tokens' : List Token}

@[simp] theorem Token.inner_nil : Inner [] := nofun

@[simp] theorem Token.inner_cons : Inner (token :: tokens) ↔ token.kind ≠ .eof ∧ Inner tokens := List.forall_mem_cons

@[simp] theorem Token.inner_append : Inner (tokens ++ tokens') ↔ Inner tokens ∧ Inner tokens' := List.forall_mem_append

theorem Token.inner_of_kinds {kinds : List TokenKind} (same : tokens.map Token.kind = kinds) (inner : .eof ∉ kinds) :
    Inner tokens := by
  intro token among ends
  rw [← same] at inner
  exact inner (ends ▸ List.mem_map_of_mem among)

theorem Token.beforeEnd_append (inner : Inner tokens) (ends : TokenKind.ahead tokens' = .eof) :
    beforeEnd (tokens ++ tokens') = tokens := by
  rw [beforeEnd, List.takeWhile_append_of_pos fun token among => by simpa using inner token among]
  cases tokens' with
  | nil => simp
  | cons token rest => simp [show token.kind = .eof from ends]

theorem Token.beforeEnd_concat (ends : token.kind = .eof) : beforeEnd (tokens ++ [token]) = beforeEnd tokens := by
  induction tokens with
  | nil => simp [beforeEnd, ends]
  | cons first rest ih =>
    by_cases inner : first.kind = .eof
    · simp [beforeEnd, inner]
    · simpa [beforeEnd, inner] using ih

theorem Cursor.beforeEnd_start (tokens : List Token) (file : String) :
    Token.beforeEnd (start tokens file).rest = Token.beforeEnd tokens := by
  rw [start]
  cases last : tokens.getLast? with
  | none => rw [List.getLast?_eq_none_iff.mp last]
  | some token =>
    obtain ⟨front, rfl⟩ := List.getLast?_eq_some_iff.mp last
    by_cases ends : token.kind = .eof
    · simpa [ends] using (Token.beforeEnd_concat ends).symm
    · simp [ends]

end

def Token.Begins (tokens : List Token) (places : List Position) : Prop :=
  ∀ place ∈ places, ∃ token ∈ tokens, place = token.span.start

namespace Token.Begins

variable {tokens tokens' : List Token} {places places' : List Position} {token : Token}

theorem none (tokens : List Token) : Begins tokens [] := nofun

theorem mono (begins : Begins tokens places) (more : tokens ⊆ tokens') : Begins tokens' places := fun place listed =>
  (begins place listed).imp fun _ ⟨among, same⟩ => ⟨more among, same⟩

theorem skip (begins : Begins tokens places) : Begins (token :: tokens) places := begins.mono (List.subset_cons_self _ _)

theorem before (begins : Begins tokens places) : Begins (tokens ++ tokens') places :=
  begins.mono (List.subset_append_left _ _)

theorem behind (begins : Begins tokens places) : Begins (tokens' ++ tokens) places :=
  begins.mono (List.subset_append_right _ _)

theorem append (first : Begins tokens places) (second : Begins tokens' places') :
    Begins (tokens ++ tokens') (places ++ places') :=
  List.forall_mem_append.mpr ⟨first.before, second.behind⟩

theorem cons (begins : Begins tokens places) : Begins (token :: tokens) (token.span.start :: places) :=
  List.forall_mem_cons.mpr ⟨⟨token, List.mem_cons_self, rfl⟩, begins.skip⟩

end Token.Begins

namespace Cursor

def ahead (cursor : Cursor) : List Token := cursor.rest ++ [cursor.ending]

-- From one cursor over some tokens to another. What is ahead of that one is among `all`.
structure Passes (all : List Token) (cursor : Cursor) (tokens : List Token) (next : Cursor) : Prop where
  rest : cursor.rest = tokens ++ next.rest
  stop : next.previousEnd = Token.stopAfter cursor.previousEnd tokens
  within : next.ahead ⊆ all

variable {all tokens more : List Token} {cursor next last : Cursor} {token : Token}

theorem current_mem_ahead (cursor : Cursor) : cursor.current ∈ cursor.ahead := by
  unfold current ahead
  cases cursor.rest <;> simp

theorem ahead_start {ending : Token} (ends : ending.kind = .eof) (file : String) :
    (start (tokens ++ [ending]) file).ahead = tokens ++ [ending] := by
  obtain ⟨kind, value, span⟩ := ending
  subst ends
  simp [start, ahead, Cursor.ending]

namespace Passes

theorem none (within : cursor.ahead ⊆ all) : Passes all cursor [] cursor := ⟨rfl, rfl, within⟩

theorem append (passed : Passes all cursor tokens next) (later : Passes all next more last) :
    Passes all cursor (tokens ++ more) last where
  rest := by rw [passed.rest, later.rest, List.append_assoc]
  stop := by rw [later.stop, passed.stop, Token.stopAfter, Token.stopAfter, Token.stopAfter, List.foldl_append]
  within := later.within

theorem current (passed : Passes all cursor (token :: tokens) next) : cursor.current = token := by
  rw [Cursor.current, passed.rest]
  rfl

theorem kind (passed : Passes all cursor (token :: tokens) next) : cursor.kind = token.kind :=
  congrArg Token.kind passed.current

theorem stops (passed : Passes all cursor [token] next) : next.previousEnd = token.span.stop := passed.stop

theorem peek (passed : Passes all cursor [token] next) : cursor.peek 1 = next.kind := by
  rw [next.kind_eq_ahead, Cursor.peek, passed.rest]
  cases next.rest <;> rfl

end Passes
end Cursor

namespace Parsed

open Cursor (Passes)

variable {α β : Type} {m n : Nat} {all tokens : List Token} {cursor next : Cursor}

-- What a reader may do: it passes over the tokens of a phrase, or it stops at one of the
-- tokens there are.
def Obeys (parsed : Parsed n α) (all : List Token) (cursor : Cursor) (phrase : List Token → α → Prop) : Prop :=
  match parsed with
  | ok value next _ => ∃ tokens, Passes all cursor tokens next ∧ phrase tokens value
  | error diagnostic _ => ∃ token ∈ all, diagnostic.position = token.span.start

section

variable {parsed : Parsed n α} {phrase phrase' : List Token → α → Prop} {phrase'' : List Token → β → Prop}

theorem Obeys.behind (passed : Passes all cursor tokens next)
    (later : parsed.Obeys all next fun more => phrase (tokens ++ more)) : parsed.Obeys all cursor phrase := by
  cases parsed with
  | ok value last shorter =>
    obtain ⟨more, passed', read⟩ := later
    exact ⟨tokens ++ more, passed.append passed', read⟩
  | error diagnostic stopped => exact later

theorem Obeys.andThen {continuation : (value : α) → (next : Cursor) → next.size < n → Parsed n β}
    (first : parsed.Obeys all cursor phrase)
    (rest : ∀ value next shorter tokens, Passes all cursor tokens next → phrase tokens value →
      (continuation value next shorter).Obeys all next fun more => phrase'' (tokens ++ more)) :
    (parsed.andThen continuation).Obeys all cursor phrase'' := by
  cases parsed with
  | ok value next shorter =>
    obtain ⟨tokens, passed, read⟩ := first
    exact (rest value next shorter tokens passed read).behind passed
  | error diagnostic stopped => exact first

theorem Obeys.after {continuation : (value : α) → (next : Cursor) → next.size < m → Parsed m β} {within : n < m}
    (first : parsed.Obeys all cursor phrase)
    (rest : ∀ value next shorter tokens, Passes all cursor tokens next → phrase tokens value →
      (continuation value next shorter).Obeys all next fun more => phrase'' (tokens ++ more)) :
    (parsed.after within continuation).Obeys all cursor phrase'' := by
  cases parsed with
  | ok value next shorter =>
    obtain ⟨tokens, passed, read⟩ := first
    exact (rest value next _ tokens passed read).behind passed
  | error diagnostic stopped => exact first

theorem Obeys.upTo {parsed : Parsed (n + 1) α}
    {continuation : (value : α) → (next : Cursor) → next.size < m → Parsed m β} {within : n < m}
    (first : parsed.Obeys all cursor phrase)
    (rest : ∀ value next shorter tokens, Passes all cursor tokens next → phrase tokens value →
      (continuation value next shorter).Obeys all next fun more => phrase'' (tokens ++ more)) :
    (parsed.upTo within continuation).Obeys all cursor phrase'' := by
  cases parsed with
  | ok value next shorter =>
    obtain ⟨tokens, passed, read⟩ := first
    exact (rest value next _ tokens passed read).behind passed
  | error diagnostic stopped => exact first

theorem Obeys.loosen (first : parsed.Obeys all cursor phrase) : parsed.loosen.Obeys all cursor phrase := by
  cases parsed with
  | ok value next shorter => exact first
  | error diagnostic stopped => exact first

theorem Obeys.imp (first : parsed.Obeys all cursor phrase) (weaker : ∀ tokens value, phrase tokens value → phrase' tokens value) :
    parsed.Obeys all cursor phrase' := by
  cases parsed with
  | ok value next shorter =>
    obtain ⟨tokens, passed, read⟩ := first
    exact ⟨tokens, passed, weaker tokens value read⟩
  | error diagnostic stopped => exact first

theorem Obeys.of_ok {value : α} {post : α → Cursor → Prop} (first : parsed.Obeys all cursor phrase)
    (ensured : parsed.Ensures post) (found : parsed.result = .ok value) :
    ∃ tokens next, Passes all cursor tokens next ∧ phrase tokens value ∧ post value next := by
  cases parsed with
  | ok value' next shorter =>
    cases found
    obtain ⟨tokens, passed, read⟩ := first
    exact ⟨tokens, next, passed, read, ensured⟩
  | error diagnostic stopped => cases found

theorem Obeys.of_error {diagnostic : Diagnostic} (first : parsed.Obeys all cursor phrase)
    (failed : parsed.result = .error diagnostic) : ∃ token ∈ all, diagnostic.position = token.span.start := by
  cases parsed with
  | ok value next shorter => cases failed
  | error diagnostic' stopped => cases failed; exact first

theorem obeys_ok {value : α} {shorter : cursor.size < n} (within : cursor.ahead ⊆ all) (read : phrase [] value) :
    (ok value cursor shorter).Obeys all cursor phrase := ⟨[], .none within, read⟩

theorem obeys_error {here stopped : Cursor} {diagnostic : Diagnostic} (within : here.ahead ⊆ all)
    (placed : diagnostic.position = here.position) :
    (error diagnostic stopped : Parsed n α).Obeys all cursor phrase :=
  ⟨here.current, within here.current_mem_ahead, placed⟩

end
end Parsed

namespace Cursor

open Parsed

variable {all : List Token} {cursor : Cursor}

theorem take_obeys (within : cursor.ahead ⊆ all) : cursor.take.Obeys all cursor fun tokens token => tokens = [token] := by
  match cursor with
  | ⟨[], endValue, endSpan, previousEnd, nextId⟩ => exact obeys_error within rfl
  | ⟨token :: rest, endValue, endSpan, previousEnd, nextId⟩ =>
    exact ⟨[token], ⟨rfl, rfl, fun _ among => within (List.mem_cons_of_mem token among)⟩, rfl⟩

theorem take_obeys_of_kind {kind : TokenKind} (within : cursor.ahead ⊆ all) (same : cursor.kind = kind) :
    cursor.take.Obeys all cursor fun tokens token => tokens = [token] ∧ token.kind = kind := by
  have taken := take_obeys within
  cases found : cursor.take with
  | ok token next shorter =>
    rw [found] at taken
    obtain ⟨_, passed, rfl⟩ := taken
    exact ⟨[token], passed, rfl, passed.kind.symm.trans same⟩
  | error diagnostic stopped =>
    rw [found] at taken
    exact taken

theorem consume_obeys (within : cursor.ahead ⊆ all) (kind : TokenKind) :
    (cursor.consume kind).Obeys all cursor fun tokens token => tokens = [token] ∧ token.kind = kind := by
  unfold consume
  split
  · rename_i same
    exact take_obeys_of_kind within same
  · exact obeys_error within rfl

theorem consumeFor_obeys (within : cursor.ahead ⊆ all) (kind : TokenKind) (message : String) :
    (cursor.consumeFor kind message).Obeys all cursor fun tokens token => tokens = [token] ∧ token.kind = kind := by
  unfold consumeFor
  split
  · rename_i same
    exact take_obeys_of_kind within same
  · exact obeys_error within rfl

theorem build_obeys {limit : Nat} {span : Span} {make : Node → Expr} {shorter : cursor.size < limit}
    {phrase : List Token → Expr → Prop} (within : cursor.ahead ⊆ all) (read : ∀ id, phrase [] (make ⟨id, span⟩)) :
    (cursor.build span make shorter).Obeys all cursor phrase :=
  ⟨[], ⟨rfl, rfl, within⟩, read cursor.nextId⟩

end Cursor
end TypedTemplate
