import TypedTemplate.Proofs.Expr.Numbers
import TypedTemplate.Proofs.Token.Word

namespace TypedTemplate

variable {rest : List Token} {cursor cursor' next next' : Cursor} {kind : TokenKind}

namespace Cursor

-- What is ahead of one cursor is ahead of another as well, and there the rest comes after it.
def Prolongs (rest : List Token) (cursor cursor' : Cursor) : Prop := cursor'.Spells (cursor.rest.map Token.word) rest

theorem Prolongs.of_nothing (prolongs : Prolongs rest cursor cursor') (ends : cursor.rest = []) : cursor'.rest = rest := by
  rw [Prolongs, ends] at prolongs
  exact spells_nil.mp prolongs

theorem Prolongs.kinds (prolongs : Prolongs rest cursor cursor') : cursor'.kind = cursor.kind ∨ cursor.rest = [] := by
  cases here : cursor.rest with
  | nil => exact .inr rfl
  | cons token others =>
    rw [Prolongs, here, List.map_cons] at prolongs
    have here' : cursor'.kind = token.kind := prolongs.kind_eq
    left
    rw [here', kind_eq_ahead, here]
    rfl

theorem Prolongs.kind_iff (prolongs : Prolongs rest cursor cursor') (inner : kind ≠ .eof) (apart : TokenKind.ahead rest ≠ kind) :
    cursor'.kind = kind ↔ cursor.kind = kind := by
  rcases prolongs.kinds with same | ends
  · rw [same]
  · rw [kind_eq_ahead, kind_eq_ahead, prolongs.of_nothing ends, ends]
    exact iff_of_false apart (Ne.symm inner)

end Cursor

namespace Parsed

open Cursor (Prolongs)

variable {α β γ δ : Type} {m n k l : Nat} {view : α → γ} {view' : β → δ}

-- What is read with nothing after it is read with the rest after it, up to what is seen of it.
def Recurs (rest : List Token) (view : α → γ) (parsed : Parsed m α) (parsed' : Parsed n α) : Prop :=
  match parsed with
  | ok value next _ => ∃ value' next', parsed'.Gives value' next' ∧ view value' = view value ∧ Prolongs rest next next'
  | error _ _ => True

variable {parsed : Parsed m α} {parsed' : Parsed n α}

theorem Recurs.gives {value : α} (recurs : parsed.Recurs rest view parsed') (given : parsed.Gives value next) :
    ∃ value' next', parsed'.Gives value' next' ∧ view value' = view value ∧ Prolongs rest next next' := by
  obtain ⟨shorter, rfl⟩ := given
  exact recurs

theorem Recurs.andThen {continuation : (value : α) → (next : Cursor) → next.size < m → Parsed m β}
    {continuation' : (value : α) → (next : Cursor) → next.size < n → Parsed n β} (first : parsed.Recurs rest view parsed')
    (later : ∀ value value' next next' shorter shorter', view value' = view value → Prolongs rest next next' →
      (continuation value next shorter).Recurs rest view' (continuation' value' next' shorter')) :
    (parsed.andThen continuation).Recurs rest view' (parsed'.andThen continuation') := by
  cases parsed with
  | error diagnostic stopped => trivial
  | ok value next shorter =>
    obtain ⟨value', next', ⟨shorter', rfl⟩, same, prolongs⟩ := first
    exact later value value' next next' shorter shorter' same prolongs

theorem Recurs.after {within : m < k} {within' : n < l}
    {continuation : (value : α) → (next : Cursor) → next.size < k → Parsed k β}
    {continuation' : (value : α) → (next : Cursor) → next.size < l → Parsed l β} (first : parsed.Recurs rest view parsed')
    (later : ∀ value value' next next' shorter shorter', view value' = view value → Prolongs rest next next' →
      (continuation value next shorter).Recurs rest view' (continuation' value' next' shorter')) :
    (parsed.after within continuation).Recurs rest view' (parsed'.after within' continuation') := by
  cases parsed with
  | error diagnostic stopped => trivial
  | ok value next shorter =>
    obtain ⟨value', next', ⟨shorter', rfl⟩, same, prolongs⟩ := first
    exact later value value' next next' _ _ same prolongs

theorem Recurs.upTo {parsed : Parsed (m + 1) α} {parsed' : Parsed (n + 1) α} {within : m < k} {within' : n < l}
    {continuation : (value : α) → (next : Cursor) → next.size < k → Parsed k β}
    {continuation' : (value : α) → (next : Cursor) → next.size < l → Parsed l β} (first : parsed.Recurs rest view parsed')
    (later : ∀ value value' next next' shorter shorter', view value' = view value → Prolongs rest next next' →
      (continuation value next shorter).Recurs rest view' (continuation' value' next' shorter')) :
    (parsed.upTo within continuation).Recurs rest view' (parsed'.upTo within' continuation') := by
  cases parsed with
  | error diagnostic stopped => trivial
  | ok value next shorter =>
    obtain ⟨value', next', ⟨shorter', rfl⟩, same, prolongs⟩ := first
    exact later value value' next next' _ _ same prolongs

theorem Recurs.loosen (first : parsed.Recurs rest view parsed') : parsed.loosen.Recurs rest view parsed'.loosen := by
  cases parsed with
  | error diagnostic stopped => trivial
  | ok value next shorter =>
    obtain ⟨value', next', given, same, prolongs⟩ := first
    exact ⟨value', next', given.loosen, same, prolongs⟩

theorem recurs_ok {value value' : α} {shorter : next.size < m} {shorter' : next'.size < n} (same : view value' = view value)
    (prolongs : Prolongs rest next next') : (ok value next shorter).Recurs rest view (ok value' next' shorter') :=
  ⟨value', next', gives_ok _, same, prolongs⟩

end Parsed

namespace Cursor

open Parsed

theorem take_recurs (prolongs : Prolongs rest cursor cursor') : cursor.take.Recurs rest Token.word cursor'.take := by
  match cursor with
  | ⟨[], _, _, _, _⟩ => trivial
  | ⟨⟨kind, value, span⟩ :: others, _, _, _, _⟩ =>
    obtain ⟨span', next', taken, spells⟩ := Spells.take prolongs
    exact ⟨_, next', taken, rfl, spells⟩

theorem exists_taken (inner : cursor.kind ≠ .eof) : ∃ token next, cursor.take.Gives token next :=
  match cursor, inner with
  | ⟨[], _, _, _, _⟩, inner => absurd rfl inner
  | ⟨_ :: _, _, _, _, _⟩, _ => ⟨_, _, gives_ok _⟩

theorem Prolongs.peek (prolongs : Prolongs rest cursor cursor') (inner : cursor.kind ≠ .eof) :
    ∃ next next', cursor.peek 1 = next.kind ∧ cursor'.peek 1 = next'.kind ∧ Prolongs rest next next' := by
  obtain ⟨token, next, taken⟩ := exists_taken inner
  obtain ⟨token', next', taken', _, prolongs⟩ := (take_recurs prolongs).gives taken
  exact ⟨next, next', (current_of_take taken).2, (current_of_take taken').2, prolongs⟩

theorem required_recurs (prolongs : Prolongs rest cursor cursor') (kind : TokenKind) (refused refused' : Diagnostic) :
    (if cursor.kind = kind then cursor.take else .error refused cursor).Recurs rest Token.word
      (if cursor'.kind = kind then cursor'.take else .error refused' cursor') := by
  rcases prolongs.kinds with same | ends
  · rw [same]
    split
    · exact take_recurs prolongs
    · trivial
  · cases cursor with
    | mk ahead endValue endSpan previousEnd nextId =>
      cases ends
      split <;> trivial

theorem consume_recurs (prolongs : Prolongs rest cursor cursor') (kind : TokenKind) :
    (cursor.consume kind).Recurs rest Token.word (cursor'.consume kind) := required_recurs prolongs kind _ _

theorem consumeFor_recurs (prolongs : Prolongs rest cursor cursor') (kind : TokenKind) (message : String) :
    (cursor.consumeFor kind message).Recurs rest Token.word (cursor'.consumeFor kind message) :=
  required_recurs prolongs kind _ _

def ofWords (words : List Word) : Cursor := ⟨words.map fun word => ⟨word.1, word.2, .nowhere⟩, "", .nowhere, .nowhere, 0⟩

theorem map_rest_ofWords (words : List Word) : (ofWords words).rest.map Token.word = words := by
  rw [ofWords, List.map_map]
  exact List.map_id words

theorem spells_ofWords (words : List Word) : (ofWords words).Spells words [] :=
  spells_of_rest (List.append_nil _).symm (map_rest_ofWords words)

end Cursor

section acceptance

variable {α γ : Type} {limit : Cursor → Nat} {reader : (cursor : Cursor) → Parsed (limit cursor) α} {words : List Word}
  {value : α}

-- Words that a reader reads in full where nothing comes after them.
def Accepts (reader : (cursor : Cursor) → Parsed (limit cursor) α) (words : List Word) (value : α) : Prop :=
  ∃ cursor next : Cursor, cursor.rest.map Token.word = words ∧ next.rest = [] ∧ (reader cursor).Gives value next

theorem Accepts.before {view : α → γ} (accepts : Accepts reader words value)
    (recurs : ∀ cursor cursor', Cursor.Prolongs rest cursor cursor' → (reader cursor).Recurs rest view (reader cursor'))
    (spells : cursor.Spells words rest) :
    ∃ found next, view found = view value ∧ next.rest = rest ∧ (reader cursor).Gives found next := by
  obtain ⟨alone, last, rfl, ends, given⟩ := accepts
  obtain ⟨found, next, given', same, prolongs⟩ := (recurs alone cursor spells).gives given
  exact ⟨found, next, same, prolongs.of_nothing ends, given'⟩

theorem accepts_of_found (found : (reader (.ofWords words)).result.toOption = some value)
    (ends : (reader (.ofWords words)).cursor.rest = []) : Accepts reader words value := by
  refine ⟨.ofWords words, (reader (.ofWords words)).cursor, Cursor.map_rest_ofWords words, ends, ?_⟩
  cases read : reader (.ofWords words) with
  | ok value' next shorter =>
    rw [read] at found
    cases found
    exact ⟨shorter, rfl⟩
  | error diagnostic stopped =>
    rw [read] at found
    cases found

end acceptance
end TypedTemplate
