import TypedTemplate.Token.Cursor

namespace TypedTemplate

theorem ok_of_isSome {α : Type} {rule : Except Diagnostic α} (found : rule.toOption.isSome) (otherwise : α) :
    rule = .ok (rule.toOption.getD otherwise) := by
  cases rule with
  | ok value => rfl
  | error diagnostic => cases found

namespace Parsed

variable {α β : Type} {m n : Nat}

def Ensures (parsed : Parsed n α) (post : α → Cursor → Prop) : Prop :=
  match parsed with
  | ok value next _ => post value next
  | error _ _ => True

section

variable {parsed : Parsed n α} {post : α → Cursor → Prop} {post' : β → Cursor → Prop}

theorem Ensures.andThen {continuation : (value : α) → (next : Cursor) → next.size < n → Parsed n β}
    (first : parsed.Ensures post)
    (rest : ∀ value next shorter, post value next → (continuation value next shorter).Ensures post') :
    (parsed.andThen continuation).Ensures post' := by
  cases parsed with
  | ok value next shorter => exact rest value next shorter first
  | error diagnostic stopped => trivial

theorem Ensures.after {continuation : (value : α) → (next : Cursor) → next.size < m → Parsed m β} {within : n < m}
    (first : parsed.Ensures post)
    (rest : ∀ value next shorter, post value next → (continuation value next shorter).Ensures post') :
    (parsed.after within continuation).Ensures post' := by
  cases parsed with
  | ok value next shorter => exact rest value next _ first
  | error diagnostic stopped => trivial

theorem Ensures.upTo {parsed : Parsed (n + 1) α}
    {continuation : (value : α) → (next : Cursor) → next.size < m → Parsed m β} {within : n < m}
    (first : parsed.Ensures post)
    (rest : ∀ value next shorter, post value next → (continuation value next shorter).Ensures post') :
    (parsed.upTo within continuation).Ensures post' := by
  cases parsed with
  | ok value next shorter => exact rest value next _ first
  | error diagnostic stopped => trivial

theorem Ensures.loosen (first : parsed.Ensures post) : parsed.loosen.Ensures post := by
  cases parsed with
  | ok value next shorter => exact first
  | error diagnostic stopped => trivial

theorem ensures_any (parsed : Parsed n α) : parsed.Ensures fun _ _ => True := by
  cases parsed <;> trivial

theorem Ensures.result {value : α} (first : parsed.Ensures post) (found : parsed.result = .ok value) :
    ∃ next, post value next := by
  cases parsed with
  | ok value' next shorter => cases found; exact ⟨next, first⟩
  | error diagnostic stopped => cases found

end
end Parsed

namespace Cursor

open Parsed

def Keeps {α : Type} (cursor : Cursor) (_ : α) (next : Cursor) : Prop := next.nextId = cursor.nextId

variable (cursor : Cursor)

theorem take_keeps : cursor.take.Ensures cursor.Keeps := by
  unfold take
  split
  · trivial
  · rfl

theorem consume_keeps (kind : TokenKind) : (cursor.consume kind).Ensures cursor.Keeps := by
  unfold consume
  split
  · exact cursor.take_keeps
  · trivial

theorem consumeFor_keeps (kind : TokenKind) (message : String) : (cursor.consumeFor kind message).Ensures cursor.Keeps := by
  unfold consumeFor
  split
  · exact cursor.take_keeps
  · trivial

end Cursor

structure Minted (first last : Nat) (ids : List Nat) : Prop where
  le : first ≤ last
  increasing : ids.Pairwise (· < ·)
  inside : ∀ id ∈ ids, first ≤ id ∧ id < last

namespace Minted

variable {first middle last : Nat} {ids ids' : List Nat}

theorem none (first : Nat) : Minted first first [] := ⟨Nat.le_refl first, .nil, nofun⟩

theorem single (id : Nat) : Minted id (id + 1) [id] :=
  ⟨Nat.le_succ id, List.pairwise_singleton _ id, by simp⟩

theorem append (earlier : Minted first middle ids) (later : Minted middle last ids') : Minted first last (ids ++ ids') where
  le := Nat.le_trans earlier.le later.le
  increasing := by
    refine List.pairwise_append.mpr ⟨earlier.increasing, later.increasing, fun id present id' present' => ?_⟩
    exact Nat.lt_of_lt_of_le (earlier.inside id present).2 (later.inside id' present').1
  inside := by
    intro id present
    rcases List.mem_append.mp present with before | after
    · exact ⟨(earlier.inside id before).1, Nat.lt_of_lt_of_le (earlier.inside id before).2 later.le⟩
    · exact ⟨Nat.le_trans earlier.le (later.inside id after).1, (later.inside id after).2⟩

theorem skip (earlier : Minted first middle ids) (le : middle ≤ last) : Minted first last ids := by
  have later : Minted middle last [] := ⟨le, .nil, nofun⟩
  simpa using earlier.append later

end Minted
end TypedTemplate
