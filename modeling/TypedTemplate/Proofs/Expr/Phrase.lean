import TypedTemplate.Proofs.Expr.Write
import TypedTemplate.Proofs.Token.Passage

namespace TypedTemplate.Expr

open Cursor Parsed

-- The tokens of an expression, and of the items or entries between brackets. Parentheses
-- around an expression leave nothing behind, and neither does a comma after the last item.
-- A number is known by its value.
mutual
inductive Phrase : List Token → Expr → Prop
  | null {token : Token} {id : Nat} (kind : token.kind = .nullWord) : Phrase [token] (null ⟨id, token.span⟩)
  | yes {token : Token} {id : Nat} (kind : token.kind = .trueWord) : Phrase [token] (bool ⟨id, token.span⟩ true)
  | no {token : Token} {id : Nat} (kind : token.kind = .falseWord) : Phrase [token] (bool ⟨id, token.span⟩ false)
  | int {token : Token} {id : Nat} {value : Int} (kind : token.kind = .number)
    (means : ofNumeral? token.value = some (int · value)) : Phrase [token] (int ⟨id, token.span⟩ value)
  | float {token : Token} {id : Nat} {bits : UInt64} (kind : token.kind = .number)
    (means : ofNumeral? token.value = some (float · bits)) : Phrase [token] (float ⟨id, token.span⟩ bits)
  | string {token : Token} {id : Nat} (kind : token.kind = .string) :
    Phrase [token] (string ⟨id, token.span⟩ token.value)
  | var {token : Token} {id : Nat} (kind : token.kind = .variableName) :
    Phrase [token] (var ⟨id, token.span⟩ token.value)
  | group {opening closing : Token} {tokens : List Token} {inner : Expr} (opened : opening.kind = .openParen)
    (read : Phrase tokens inner) (closed : closing.kind = .closeParen) : Phrase (opening :: (tokens ++ [closing])) inner
  | list {opening closing : Token} {tokens : List Token} {items : List Expr} {id : Nat}
    (opened : opening.kind = .openBracket) (read : Items tokens items) (closed : closing.kind = .closeBracket) :
    Phrase (opening :: (tokens ++ [closing])) (list ⟨id, ⟨opening.span.start, closing.span.stop⟩⟩ items)
  | emptyMap {opening colon closing : Token} {id : Nat}
    (kinds : [opening, colon, closing].map Token.kind = [.openBracket, .colon, .closeBracket]) :
    Phrase [opening, colon, closing] (map ⟨id, ⟨opening.span.start, closing.span.stop⟩⟩ [])
  | map {opening closing : Token} {tokens : List Token} {entries : List (Expr × Expr)} {id : Nat}
    (opened : opening.kind = .openBracket) (read : Entries tokens entries) (some : entries ≠ [])
    (closed : closing.kind = .closeBracket) :
    Phrase (opening :: (tokens ++ [closing])) (map ⟨id, ⟨opening.span.start, closing.span.stop⟩⟩ entries)
  | field {point name : Token} {tokens : List Token} {base : Expr} {nullSafe : Bool} {id : Nat} (read : Phrase tokens base)
    (named : [point, name].map Token.kind = [bif nullSafe then .questionDot else .dot, .identifier]) :
    Phrase (tokens ++ [point, name]) (field ⟨id, ⟨base.span.start, name.span.stop⟩⟩ base name.value nullSafe)
  | index {opening closing : Token} {tokens tokens' : List Token} {base key : Expr} {nullSafe : Bool} {id : Nat}
    (read : Phrase tokens base) (opened : opening.kind = bif nullSafe then .questionBracket else .openBracket)
    (inside : Phrase tokens' key) (closed : closing.kind = .closeBracket) :
    Phrase (tokens ++ opening :: (tokens' ++ [closing]))
      (index ⟨id, ⟨base.span.start, closing.span.stop⟩⟩ base key nullSafe)
  | unary {sign : Token} {operator : UnaryOperator} {tokens : List Token} {operand : Expr} {id : Nat}
    (signed : sign.kind = operator.kind) (read : Phrase tokens operand) :
    Phrase (sign :: tokens) (unary ⟨id, ⟨sign.span.start, operand.span.stop⟩⟩ operator operand)
  | binary {sign : Token} {operator : BinaryOperator} {tokens tokens' : List Token} {left right : Expr} {id : Nat}
    (read : Phrase tokens left) (signed : sign.kind = operator.kind) (read' : Phrase tokens' right) :
    Phrase (tokens ++ sign :: tokens') (binary ⟨id, ⟨left.span.start, right.span.stop⟩⟩ operator left right)
  | conditional {question colon : Token} {tokens tokens' tokens'' : List Token} {condition thenValue elseValue : Expr}
    {id : Nat} (read : Phrase tokens condition) (asked : question.kind = .question) (read' : Phrase tokens' thenValue)
    (divided : colon.kind = .colon) (read'' : Phrase tokens'' elseValue) :
    Phrase (tokens ++ question :: (tokens' ++ colon :: tokens''))
      (conditional ⟨id, ⟨condition.span.start, elseValue.span.stop⟩⟩ condition thenValue elseValue)
  | call {name opening closing : Token} {tokens : List Token} {args : List Expr} {id : Nat}
    (opened : [name, opening].map Token.kind = [.identifier, .openParen]) (read : Items tokens args)
    (closed : closing.kind = .closeParen) : Phrase (name :: opening :: (tokens ++ [closing]))
      (call ⟨id, ⟨name.span.start, closing.span.stop⟩⟩ name.value args)

inductive Items : List Token → List Expr → Prop
  | none : Items [] []
  | last {tokens : List Token} {item : Expr} (read : Phrase tokens item) : Items tokens [item]
  | more {comma : Token} {tokens tokens' : List Token} {item : Expr} {rest : List Expr} (read : Phrase tokens item)
    (goesOn : comma.kind = .comma) (others : Items tokens' rest) : Items (tokens ++ comma :: tokens') (item :: rest)

inductive Entries : List Token → List (Expr × Expr) → Prop
  | none : Entries [] []
  | last {colon : Token} {tokens tokens' : List Token} {key value : Expr} (read : Phrase tokens key)
    (divided : colon.kind = .colon) (read' : Phrase tokens' value) : Entries (tokens ++ colon :: tokens') [(key, value)]
  | more {colon comma : Token} {tokens tokens' tokens'' : List Token} {key value : Expr} {rest : List (Expr × Expr)}
    (read : Phrase tokens key) (divided : colon.kind = .colon) (read' : Phrase tokens' value)
    (goesOn : comma.kind = .comma) (others : Entries tokens'' rest) :
    Entries (tokens ++ colon :: (tokens' ++ comma :: tokens'')) ((key, value) :: rest)
end

theorem unaryKind_inner (operator : UnaryOperator) : operator.kind ≠ .eof := by cases operator <;> decide

theorem binaryKind_inner (operator : BinaryOperator) : operator.kind ≠ .eof := by cases operator <;> decide

mutual
theorem Phrase.inner : ∀ {tokens : List Token} {expr : Expr}, Phrase tokens expr → Token.Inner tokens
  | _, _, .null kind | _, _, .yes kind | _, _, .no kind | _, _, .int kind _ | _, _, .float kind _ | _, _, .string kind
  | _, _, .var kind => by simp [kind]
  | _, _, .group opened read closed => by simp [opened, read.inner, closed]
  | _, _, .list opened read closed => by simp [opened, read.inner, closed]
  | _, _, .emptyMap kinds => Token.inner_of_kinds kinds (by decide)
  | _, _, .map opened read _ closed => by simp [opened, read.inner, closed]
  | _, _, .field read leads => by
    simpa [read.inner] using Token.inner_of_kinds leads (by simp [Bool.cond_eq_ite, eq_ite_iff])
  | _, _, .index read opened inside closed => by
    simp [read.inner, opened, inside.inner, closed, Bool.cond_eq_ite, ite_eq_iff]
  | _, _, .unary signed read => by simp [signed, unaryKind_inner, read.inner]
  | _, _, .binary read signed read' => by simp [read.inner, signed, binaryKind_inner, read'.inner]
  | _, _, .conditional read asked read' divided read'' => by
    simp [read.inner, asked, read'.inner, divided, read''.inner]
  | _, _, .call opened read closed => by
    simpa [read.inner, closed] using Token.inner_of_kinds opened (by decide)

theorem Items.inner : ∀ {tokens : List Token} {items : List Expr}, Items tokens items → Token.Inner tokens
  | _, _, .none => Token.inner_nil
  | _, _, .last read => read.inner
  | _, _, .more read goesOn others => by simp [read.inner, goesOn, others.inner]

theorem Entries.inner : ∀ {tokens : List Token} {entries : List (Expr × Expr)}, Entries tokens entries → Token.Inner tokens
  | _, _, .none => Token.inner_nil
  | _, _, .last read divided read' => by simp [read.inner, divided, read'.inner]
  | _, _, .more read divided read' goesOn others => by
    simp [read.inner, divided, read'.inner, goesOn, others.inner]
end

theorem Phrase.number {token : Token} {make : Node → Expr} (kind : token.kind = .number)
    (means : ofNumeral? token.value = some make) (id : Nat) : Phrase [token] (make ⟨id, token.span⟩) := by
  have whole := means
  unfold ofNumeral? at means
  split at means
  · obtain ⟨bits, _, rfl⟩ := Option.map_eq_some_iff.mp means
    exact .float kind whole
  · obtain ⟨value, _, rfl⟩ := Option.map_eq_some_iff.mp means
    exact .int kind whole

theorem kind_of_ofKind? {kind : TokenKind} {operator : BinaryOperator} (found : BinaryOperator.ofKind? kind = some operator) :
    kind = operator.kind := by
  unfold BinaryOperator.ofKind? at found
  split at found <;> cases found <;> rfl

variable {all : List Token}

-- Reading an expression passes over its tokens. What is read after an expression is read
-- with it at hand, so that the phrase of the whole is there once its last piece is.
mutual
theorem parse_obeys {cursor : Cursor} (power : BindingPower) (within : cursor.ahead ⊆ all) :
    (parse power cursor).Obeys all cursor Phrase := by
  rw [parse]
  refine (parseOperand_obeys within).andThen ?_
  rintro left next - tokens passed read
  refine (extend_obeys power passed.within read).upTo ?_
  rintro whole done - more passed read
  exact obeys_ok passed.within (by rwa [List.append_nil])
termination_by 4 * cursor.size + 2

theorem parseOperand_obeys {cursor : Cursor} (within : cursor.ahead ⊆ all) :
    (parseOperand cursor).Obeys all cursor Phrase := by
  rw [parseOperand]
  refine (take_obeys within).andThen ?_
  rintro token next shorter _ passed rfl
  split <;> rename_i kind
  · split
    · rename_i make means
      exact build_obeys passed.within (.number kind means)
    · exact obeys_error within (by rw [Cursor.position, passed.current])
  · exact build_obeys passed.within fun _ => .string kind
  · exact build_obeys passed.within fun _ => .null kind
  · exact build_obeys passed.within fun _ => .yes kind
  · exact build_obeys passed.within fun _ => .no kind
  · exact build_obeys passed.within fun _ => .var kind
  · refine (consumeFor_obeys passed.within _ _).after ?_
    rintro opening inside - _ passed ⟨rfl, opens⟩
    refine (parseArguments_obeys passed.within).upTo ?_
    rintro args last - tokens passed read
    refine (consume_obeys passed.within _).after ?_
    rintro closing done - _ passed ⟨rfl, closed⟩
    have opened : [token, opening].map Token.kind = [.identifier, .openParen] := by simp [kind, opens]
    rw [passed.stops]
    exact build_obeys passed.within fun _ => .call opened read closed
  · refine (parse_obeys .unary passed.within).after ?_
    rintro operand done - tokens passed read
    exact build_obeys passed.within fun _ => by rw [List.append_nil]; exact .unary kind read
  · refine (parse_obeys .unary passed.within).after ?_
    rintro operand done - tokens passed read
    exact build_obeys passed.within fun _ => by rw [List.append_nil]; exact .unary kind read
  · refine (parse_obeys .lowest passed.within).after ?_
    rintro inner last - tokens passed read
    refine (consume_obeys passed.within _).after ?_
    rintro closing done - _ passed ⟨rfl, closed⟩
    exact obeys_ok passed.within (.group kind read closed)
  · refine (parseCollection_obeys passed.within kind).after ?_
    rintro whole done - tokens passed read
    exact obeys_ok passed.within (by rwa [List.append_nil])
  · exact obeys_error within rfl
termination_by 4 * cursor.size + 1

theorem extend_obeys {cursor : Cursor} (power : BindingPower) (within : cursor.ahead ⊆ all) {before : List Token}
    {left : Expr} (read : Phrase before left) :
    (extend power left cursor).Obeys all cursor fun tokens => Phrase (before ++ tokens) := by
  rw [extend]
  split
  · apply Obeys.loosen
    refine (parseOperator_obeys within read).andThen ?_
    rintro whole next - tokens passed read
    refine (extend_obeys power passed.within read).upTo ?_
    rintro whole done - more passed read
    exact obeys_ok passed.within (by rwa [List.append_nil, ← List.append_assoc])
  · exact obeys_ok within (by rwa [List.append_nil])
termination_by 4 * cursor.size + 2

theorem parseOperator_obeys {cursor : Cursor} (within : cursor.ahead ⊆ all) {before : List Token} {left : Expr}
    (read : Phrase before left) :
    (parseOperator left cursor).Obeys all cursor fun tokens => Phrase (before ++ tokens) := by
  rw [parseOperator]
  refine (take_obeys within).andThen ?_
  rintro token next shorter _ passed rfl
  split
  · rename_i kind
    refine (parse_obeys .lowest passed.within).after ?_
    rintro right done - tokens passed read'
    refine build_obeys passed.within fun _ => ?_
    rw [List.append_nil]
    exact .binary read kind read'
  · rename_i kind
    refine (parse_obeys .lowest passed.within).after ?_
    rintro thenValue middle - tokens passed read'
    refine (consumeFor_obeys passed.within _ _).after ?_
    rintro colon last - _ passed ⟨rfl, divided⟩
    refine (parse_obeys .lowest passed.within).after ?_
    rintro elseValue done - tokens' passed read''
    refine build_obeys passed.within fun _ => ?_
    rw [List.append_nil]
    exact .conditional read kind read' divided read''
  · rename_i kind
    refine (consumeFor_obeys passed.within _ _).after ?_
    rintro name done - _ passed ⟨rfl, named⟩
    exact build_obeys passed.within fun _ => .field read (by simp [kind, named]; rfl)
  · rename_i kind
    refine (consumeFor_obeys passed.within _ _).after ?_
    rintro name done - _ passed ⟨rfl, named⟩
    exact build_obeys passed.within fun _ => .field read (by simp [kind, named])
  · rename_i kind
    refine (parse_obeys .lowest passed.within).after ?_
    rintro key last - tokens passed read'
    refine (consume_obeys passed.within _).after ?_
    rintro closing done - _ passed ⟨rfl, closed⟩
    rw [passed.stops]
    exact build_obeys passed.within fun _ => .index read (by rw [kind]; rfl) read' closed
  · rename_i kind
    refine (parse_obeys .lowest passed.within).after ?_
    rintro key last - tokens passed read'
    refine (consume_obeys passed.within _).after ?_
    rintro closing done - _ passed ⟨rfl, closed⟩
    rw [passed.stops]
    exact build_obeys passed.within fun _ => .index read (by rw [kind]; rfl) read' closed
  · split
    · exact obeys_error within rfl
    · rename_i operator found
      refine (parse_obeys _ passed.within).after ?_
      rintro right done - tokens passed read'
      refine build_obeys passed.within fun _ => ?_
      rw [List.append_nil]
      exact .binary read (kind_of_ofKind? found) read'
termination_by 4 * cursor.size + 1

theorem parseArguments_obeys {cursor : Cursor} (within : cursor.ahead ⊆ all) :
    (parseArguments cursor).Obeys all cursor Items := by
  rw [parseArguments]
  split
  · exact obeys_ok within .none
  · apply Obeys.loosen
    refine (parse_obeys .lowest within).andThen ?_
    rintro first next - tokens passed read
    split
    · refine (consume_obeys passed.within _).after ?_
      rintro comma more - _ passed ⟨rfl, goesOn⟩
      refine (parseArguments_obeys passed.within).upTo ?_
      rintro rest done - others passed read'
      refine obeys_ok passed.within ?_
      rw [List.append_nil]
      exact .more read goesOn read'
    · refine obeys_ok passed.within ?_
      rw [List.append_nil]
      exact .last read
termination_by 4 * cursor.size + 3

theorem parseCollection_obeys {cursor : Cursor} (within : cursor.ahead ⊆ all) {opening : Token}
    (opened : opening.kind = .openBracket) :
    (parseCollection opening.span.start cursor).Obeys all cursor fun tokens => Phrase (opening :: tokens) := by
  rw [parseCollection]
  split
  · refine (consume_obeys within _).andThen ?_
    rintro colon last - _ passed ⟨rfl, divided⟩
    refine (consume_obeys passed.within _).after ?_
    rintro closing done - _ passed ⟨rfl, closed⟩
    rw [passed.stops]
    exact build_obeys passed.within fun _ => .emptyMap (by simp [opened, divided, closed])
  split
  · refine (consume_obeys within _).andThen ?_
    rintro closing done - _ passed ⟨rfl, closed⟩
    rw [passed.stops]
    exact build_obeys passed.within fun _ => .list opened .none closed
  · refine (parse_obeys .lowest within).andThen ?_
    rintro first next - tokens passed read
    split
    · refine (consume_obeys passed.within _).after ?_
      rintro colon middle - _ passed ⟨rfl, divided⟩
      refine (parse_obeys .lowest passed.within).after ?_
      rintro value later - tokens' passed read'
      refine (parseEntries_obeys passed.within read divided read').upTo ?_
      rintro rest last - more passed entries
      refine (consume_obeys passed.within _).after ?_
      rintro closing done - _ passed ⟨rfl, closed⟩
      rw [passed.stops]
      refine build_obeys passed.within fun id => ?_
      have whole : Phrase _ (map ⟨id, _⟩ _) := .map opened entries (List.cons_ne_nil _ _) closed
      simpa using whole
    · refine (parseItems_obeys passed.within read).upTo ?_
      rintro rest last - more passed items
      refine (consume_obeys passed.within _).after ?_
      rintro closing done - _ passed ⟨rfl, closed⟩
      rw [passed.stops]
      refine build_obeys passed.within fun id => ?_
      have whole : Phrase _ (list ⟨id, _⟩ _) := .list opened items closed
      simpa using whole
termination_by 4 * cursor.size + 3

theorem parseItems_obeys {cursor : Cursor} (within : cursor.ahead ⊆ all) {before : List Token} {first : Expr}
    (read : Phrase before first) :
    (parseItems cursor).Obeys all cursor fun tokens rest => Items (before ++ tokens) (first :: rest) := by
  rw [parseItems]
  split
  · apply Obeys.loosen
    refine (consume_obeys within _).andThen ?_
    rintro comma next - _ passed ⟨rfl, goesOn⟩
    split
    · exact obeys_ok passed.within (.more read goesOn .none)
    · refine (parse_obeys .lowest passed.within).after ?_
      rintro item later - tokens passed read'
      split
      · exact obeys_error passed.within rfl
      · refine (parseItems_obeys passed.within read').upTo ?_
        rintro rest done - more passed items
        refine obeys_ok passed.within ?_
        rw [List.append_nil]
        exact .more read goesOn items
  · exact obeys_ok within (by rw [List.append_nil]; exact .last read)
termination_by 4 * cursor.size + 3

theorem parseEntries_obeys {cursor : Cursor} (within : cursor.ahead ⊆ all) {before before' : List Token} {colon : Token}
    {key value : Expr} (read : Phrase before key) (divided : colon.kind = .colon) (read' : Phrase before' value) :
    (parseEntries cursor).Obeys all cursor fun tokens rest =>
      Entries (before ++ colon :: (before' ++ tokens)) ((key, value) :: rest) := by
  rw [parseEntries]
  split
  · apply Obeys.loosen
    refine (consume_obeys within _).andThen ?_
    rintro comma next - _ passed ⟨rfl, goesOn⟩
    split
    · exact obeys_ok passed.within (.more read divided read' goesOn .none)
    · refine (parse_obeys .lowest passed.within).after ?_
      rintro key' middle - tokens passed later
      split
      · refine (consume_obeys passed.within _).after ?_
        rintro colon' last - _ passed ⟨rfl, divided'⟩
        refine (parse_obeys .lowest passed.within).after ?_
        rintro value' last - tokens' passed later'
        refine (parseEntries_obeys passed.within later divided' later').upTo ?_
        rintro rest done - more passed entries
        refine obeys_ok passed.within ?_
        rw [List.append_nil]
        exact .more read divided read' goesOn entries
      · exact obeys_error passed.within rfl
  · exact obeys_ok within (by rw [List.append_nil]; exact .last read divided read')
termination_by 4 * cursor.size + 3
end

end TypedTemplate.Expr
