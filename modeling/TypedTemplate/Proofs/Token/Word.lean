import TypedTemplate.Operator
import TypedTemplate.Token.Cursor

namespace TypedTemplate

abbrev Word := TokenKind × String

def Token.word (token : Token) : Word := (token.kind, token.value)

def TokenKind.word (kind : TokenKind) : Word := (kind, kind.spelling)

def TokenKind.ahead : List Token → TokenKind
  | [] => eof
  | token :: _ => token.kind

def BindingPower.ahead : List Token → BindingPower
  | [] => lowest
  | token :: _ => ofKind token.kind

namespace Parsed

variable {α β : Type} {m n : Nat} {value : α} {value' : β} {next last : Cursor}

def Gives (parsed : Parsed n α) (value : α) (next : Cursor) : Prop := ∃ shorter, parsed = .ok value next shorter

theorem Gives.andThen {parsed : Parsed n α}
    {continuation : (value : α) → (next : Cursor) → next.size < n → Parsed n β} (first : parsed.Gives value next)
    (rest : ∀ shorter, (continuation value next shorter).Gives value' last) :
    (parsed.andThen continuation).Gives value' last := by
  obtain ⟨shorter, rfl⟩ := first
  exact rest shorter

theorem Gives.after {parsed : Parsed n α} {within : n < m}
    {continuation : (value : α) → (next : Cursor) → next.size < m → Parsed m β} (first : parsed.Gives value next)
    (rest : ∀ shorter, (continuation value next shorter).Gives value' last) :
    (parsed.after within continuation).Gives value' last := by
  obtain ⟨shorter, rfl⟩ := first
  exact rest _

theorem Gives.upTo {parsed : Parsed (n + 1) α} {within : n < m}
    {continuation : (value : α) → (next : Cursor) → next.size < m → Parsed m β} (first : parsed.Gives value next)
    (rest : ∀ shorter, (continuation value next shorter).Gives value' last) :
    (parsed.upTo within continuation).Gives value' last := by
  obtain ⟨shorter, rfl⟩ := first
  exact rest _

theorem Gives.loosen {parsed : Parsed n α} (first : parsed.Gives value next) : parsed.loosen.Gives value next := by
  obtain ⟨shorter, rfl⟩ := first
  exact ⟨_, rfl⟩

theorem Gives.of_andThen {parsed : Parsed n α}
    {continuation : (value : α) → (next : Cursor) → next.size < n → Parsed n β}
    (whole : (parsed.andThen continuation).Gives value' last) :
    ∃ value next shorter, parsed.Gives value next ∧ (continuation value next shorter).Gives value' last := by
  cases parsed with
  | ok value next shorter => exact ⟨value, next, shorter, ⟨shorter, rfl⟩, whole⟩
  | error diagnostic stopped => exact nomatch whole

theorem Gives.of_after {parsed : Parsed n α} {within : n < m}
    {continuation : (value : α) → (next : Cursor) → next.size < m → Parsed m β}
    (whole : (parsed.after within continuation).Gives value' last) : ∃ value next, parsed.Gives value next := by
  cases parsed with
  | ok value next shorter => exact ⟨value, next, shorter, rfl⟩
  | error diagnostic stopped => exact nomatch whole

theorem gives_ok (shorter : next.size < n) : (ok value next shorter).Gives value next := ⟨shorter, rfl⟩

end Parsed

namespace Cursor

open Parsed

def Spells (cursor : Cursor) (words : List Word) (rest : List Token) : Prop :=
  ∃ tokens : List Token, cursor.rest = tokens ++ rest ∧ tokens.map Token.word = words

variable {cursor : Cursor} {words words' : List Word} {rest : List Token} {kind : TokenKind} {value : String}

theorem ofKind_kind (cursor : Cursor) : BindingPower.ofKind cursor.kind = .ahead cursor.rest := by
  unfold kind current
  cases cursor.rest <;> rfl

theorem kind_eq_ahead (cursor : Cursor) : cursor.kind = .ahead cursor.rest := by
  unfold kind current
  cases cursor.rest <;> rfl

theorem spells_nil : cursor.Spells [] rest ↔ cursor.rest = rest := by
  simp [Spells]

theorem Spells.append (spells : cursor.Spells (words ++ words') rest) :
    ∃ tokens : List Token, tokens.map Token.word = words' ∧ cursor.Spells words (tokens ++ rest) := by
  obtain ⟨tokens, ahead, same⟩ := spells
  obtain ⟨first, second, rfl, same, same'⟩ := List.map_eq_append_iff.mp same
  exact ⟨second, same', first, by rw [ahead, List.append_assoc], same⟩

theorem spells_of_rest {tokens : List Token} (ahead : cursor.rest = tokens ++ rest) (same : tokens.map Token.word = words) :
    cursor.Spells words rest := ⟨tokens, ahead, same⟩

theorem Spells.take (spells : cursor.Spells ((kind, value) :: words) rest) :
    ∃ span next, cursor.take.Gives ⟨kind, value, span⟩ next ∧ next.Spells words rest := by
  obtain ⟨tokens, ahead, same⟩ := spells
  obtain ⟨token, others, rfl, first, later⟩ := List.map_eq_cons_iff.mp same
  cases cursor with
  | mk ahead' endValue endSpan previousEnd nextId =>
    cases ahead
    cases token with
    | mk kind' value' span =>
      cases first
      exact ⟨span, ⟨others ++ rest, endValue, endSpan, span.stop, nextId⟩, gives_ok _, others, rfl, later⟩

theorem current_of_take {token : Token} {next : Cursor} (taken : cursor.take.Gives token next) :
    cursor.current = token ∧ cursor.peek 1 = next.kind := by
  obtain ⟨shorter, found⟩ := taken
  match cursor with
  | ⟨[], _, _, _, _⟩ => cases found
  | ⟨[_], _, _, _, _⟩ => cases found; exact ⟨rfl, rfl⟩
  | ⟨_ :: _ :: _, _, _, _, _⟩ => cases found; exact ⟨rfl, rfl⟩

theorem kind_of_consumeFor {token : Token} {next : Cursor} {message : String}
    (taken : (cursor.consumeFor kind message).Gives token next) : cursor.kind = kind := by
  by_cases same : cursor.kind = kind
  · exact same
  · rw [consumeFor, if_neg same] at taken
    exact nomatch taken

theorem Spells.kind_eq (spells : cursor.Spells ((kind, value) :: words) rest) : cursor.kind = kind := by
  obtain ⟨tokens, ahead, same⟩ := spells
  obtain ⟨token, others, rfl, first, _⟩ := List.map_eq_cons_iff.mp same
  cases first
  unfold Cursor.kind current
  rw [ahead]
  rfl

theorem Spells.peek_eq {first : Word} (spells : cursor.Spells (first :: (kind, value) :: words) rest) :
    cursor.peek 1 = kind := by
  obtain ⟨tokens, ahead, same⟩ := spells
  obtain ⟨token, others, rfl, _, later⟩ := List.map_eq_cons_iff.mp same
  obtain ⟨second, others, rfl, here, _⟩ := List.map_eq_cons_iff.mp later
  cases here
  unfold Cursor.peek
  rw [ahead]
  rfl

theorem Spells.head?_eq (spells : cursor.Spells (words ++ words') rest) (some : words ≠ []) :
    words.head?.map Prod.fst = .some cursor.kind := by
  match words, some with
  | (kind, value) :: words, _ => exact congrArg Option.some spells.kind_eq.symm

theorem Spells.consume (spells : cursor.Spells ((kind, value) :: words) rest) :
    ∃ span next, (cursor.consume kind).Gives ⟨kind, value, span⟩ next ∧ next.Spells words rest := by
  rw [Cursor.consume, if_pos spells.kind_eq]
  exact spells.take

theorem Spells.consumeFor (spells : cursor.Spells ((kind, value) :: words) rest) (message : String) :
    ∃ span next, (cursor.consumeFor kind message).Gives ⟨kind, value, span⟩ next ∧ next.Spells words rest := by
  rw [Cursor.consumeFor, if_pos spells.kind_eq]
  exact spells.take

theorem rest_start (tokens : List Token) {ending : Token} (ends : ending.kind = .eof) (file : String) :
    (start (tokens ++ [ending]) file).rest = tokens := by
  rw [start, List.getLast?_append, List.getLast?_singleton]
  simp [ends]

theorem rest_start_of_ends {tokens ending : List Token} (last : ∀ token ∈ tokens.getLast?, token.kind ≠ .eof)
    (ends : ∀ token ∈ ending, token.kind = .eof) (file : String) :
    ∃ rest, (start (tokens ++ ending) file).rest = tokens ++ rest ∧ TokenKind.ahead rest = .eof := by
  rcases List.eq_nil_or_concat ending with rfl | ⟨others, token, rfl⟩
  · refine ⟨[], ?_, rfl⟩
    rw [List.append_nil, start]
    cases there : tokens.getLast? with
    | none => simp [List.getLast?_eq_none_iff.mp there]
    | some token => simp [last token there]
  · rw [List.concat_eq_append] at ends ⊢
    rw [List.forall_mem_append, List.forall_mem_singleton] at ends
    refine ⟨others, by rw [← List.append_assoc, rest_start _ ends.2], ?_⟩
    cases others with
    | nil => rfl
    | cons first others => exact ends.1 first List.mem_cons_self

theorem rest_advance {token : Token} (ahead : cursor.rest = token :: rest) : cursor.advance.rest = rest := by
  rw [advance, ahead]

theorem build_gives {limit : Nat} (cursor : Cursor) (span : Span) (make : Node → Expr) (shorter : cursor.size < limit) :
    (cursor.build span make shorter).Gives (make ⟨cursor.nextId, span⟩) cursor.mint := gives_ok _

end Cursor

theorem TokenKind.ahead_word {tokens rest : List Token} {kind : TokenKind} {value : String} {words : List Word}
    (same : tokens.map Token.word = (kind, value) :: words) : ahead (tokens ++ rest) = kind := by
  obtain ⟨token, others, rfl, first, _⟩ := List.map_eq_cons_iff.mp same
  cases first
  rfl

theorem BindingPower.ahead_word {tokens rest : List Token} {kind : TokenKind} {value : String} {words : List Word}
    (same : tokens.map Token.word = (kind, value) :: words) : ahead (tokens ++ rest) = ofKind kind := by
  obtain ⟨token, others, rfl, first, _⟩ := List.map_eq_cons_iff.mp same
  cases first
  rfl

end TypedTemplate
