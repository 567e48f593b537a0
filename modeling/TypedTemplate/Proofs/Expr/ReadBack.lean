import TypedTemplate.Proofs.Expr.Write
import TypedTemplate.Proofs.Numeral.Integer

namespace TypedTemplate.Expr

open Parsed Cursor BindingPower

variable {power : BindingPower} {words words' : List Word} {limit : Nat} {expr left : Expr} {cursor next last : Cursor}
  {rest : List Token}

-- Words that read as an expression where an operand is asked for, as long as what comes
-- after them does not bind above the limit.
def Operand (words : List Word) (limit : Nat) (expr : Expr) : Prop :=
  ∀ (cursor : Cursor) (rest : List Token), cursor.Spells words rest → (ahead rest).level ≤ limit →
    ∃ found next, found.shape = expr.shape ∧ next.rest = rest ∧ (parseOperand cursor).Gives found next

-- Words that read as the start of an expression, which goes on with what comes after them.
def Starts (power : BindingPower) (words : List Word) (limit : Nat) (expr : Expr) : Prop :=
  ∀ (cursor : Cursor) (rest : List Token), cursor.Spells words rest → (ahead rest).level ≤ limit →
    ∃ found next, found.shape = expr.shape ∧ next.rest = rest ∧
      ∀ whole last, (extend power found next).Gives whole last → (parse power cursor).Gives whole last

def Reads (power : BindingPower) (words : List Word) (expr : Expr) : Prop :=
  ∀ (cursor : Cursor) (rest : List Token), cursor.Spells words rest → (ahead rest).level ≤ power.level →
    ∃ found next, found.shape = expr.shape ∧ next.rest = rest ∧ (parse power cursor).Gives found next

def Continues (left : Expr) (words : List Word) (limit : Nat) (expr : Expr) : Prop :=
  ∀ (found : Expr) (cursor : Cursor) (rest : List Token), found.shape = left.shape → cursor.Spells words rest →
    (ahead rest).level ≤ limit →
    ∃ whole next, whole.shape = expr.shape ∧ next.rest = rest ∧ (parseOperator found cursor).Gives whole next

theorem extend_stops (stops : (ahead cursor.rest).level ≤ power.level) : (extend power left cursor).Gives left cursor := by
  rw [← ofKind_kind] at stops
  rw [extend, if_neg (by omega)]
  exact gives_ok _

theorem extend_goes_on {whole final : Expr} (binds : power.level < (ahead cursor.rest).level)
    (taken : (parseOperator left cursor).Gives whole next) (others : (extend power whole next).Gives final last) :
    (extend power left cursor).Gives final last := by
  rw [← ofKind_kind] at binds
  rw [extend, if_pos binds]
  exact (taken.andThen fun _ => others.upTo fun _ => gives_ok _).loosen

theorem Operand.starts (operand : Operand words limit expr) : Starts power words limit expr := by
  intro cursor rest spells loose
  obtain ⟨found, next, same, there, given⟩ := operand cursor rest spells loose
  refine ⟨found, next, same, there, fun whole last others => ?_⟩
  rw [parse]
  exact given.andThen fun _ => others.upTo fun _ => gives_ok _

theorem Starts.weaken {limit' : Nat} (starts : Starts power words limit expr) (less : limit' ≤ limit) :
    Starts power words limit' expr :=
  fun cursor rest spells loose => starts cursor rest spells (Nat.le_trans loose less)

theorem Starts.reads (starts : Starts power words limit expr) (enough : power.level ≤ limit) : Reads power words expr := by
  intro cursor rest spells loose
  obtain ⟨found, next, same, there, given⟩ := starts cursor rest spells (Nat.le_trans loose enough)
  exact ⟨found, next, same, there, given found next (extend_stops (there ▸ loose))⟩

theorem Starts.followed {limit' : Nat} {kind : TokenKind} {value : String} (starts : Starts power words limit left)
    (continues : Continues left ((kind, value) :: words') limit' expr) (binds : power.level < (ofKind kind).level)
    (free : (ofKind kind).level ≤ limit) : Starts power (words ++ ((kind, value) :: words')) limit' expr := by
  intro cursor rest spells loose
  obtain ⟨tokens, same, spells⟩ := spells.append
  have head : ahead (tokens ++ rest) = ofKind kind := ahead_word same
  obtain ⟨found, middle, alike, there, given⟩ := starts cursor (tokens ++ rest) spells (by rw [head]; exact free)
  obtain ⟨whole, next, alike', there', taken⟩ := continues found middle rest alike (spells_of_rest there same) loose
  refine ⟨whole, next, alike', there', fun final last others => given final last ?_⟩
  exact extend_goes_on (by rw [there, head]; exact binds) taken others

def Ends : List Word → Prop
  | [] => False
  | word :: _ => ofKind word.1 = .lowest

theorem Ends.ahead (ends : Ends words) {tokens : List Token} (same : tokens.map Token.word = words) (rest : List Token) :
    ahead (tokens ++ rest) = .lowest := by
  match words, ends with
  | (kind, value) :: words, ends => exact (ahead_word same).trans ends

theorem Reads.before (reads : Reads .lowest words expr) (spells : cursor.Spells (words ++ words') rest)
    (ends : Ends words') :
    ∃ found next, found.shape = expr.shape ∧ next.Spells words' rest ∧ (parse .lowest cursor).Gives found next := by
  obtain ⟨tokens, same, spells⟩ := spells.append
  obtain ⟨found, next, alike, there, given⟩ := reads cursor (tokens ++ rest) spells (by rw [ends.ahead same])
  exact ⟨found, next, alike, spells_of_rest there same, given⟩

section operators

theorem field_continues (node : Node) (left : Expr) (name : String) (nullSafe : Bool) (limit : Nat) :
    Continues left [(bif nullSafe then TokenKind.questionDot else .dot).word, (.identifier, name)] limit
      (field node left name nullSafe) := by
  intro found cursor rest same spells _
  obtain ⟨span, next, taken, spells⟩ := spells.take
  obtain ⟨span', last, named, spells⟩ := spells.consumeFor "expected field name"
  refine ⟨field ⟨last.nextId, found.spanTo span'.stop⟩ found name nullSafe, last.mint, by simp [same],
    spells_nil.mp spells, ?_⟩
  rw [parseOperator]
  cases nullSafe
  all_goals
    refine taken.andThen fun _ => ?_
    exact named.after fun _ => build_gives _ _ _ _

theorem index_continues {key : Expr} (reads : Reads .lowest words key) (node : Node) (left : Expr) (nullSafe : Bool)
    (limit : Nat) : Continues left ((bif nullSafe then TokenKind.questionBracket else .openBracket).word ::
      (words ++ [TokenKind.closeBracket.word])) limit (index node left key nullSafe) := by
  intro found cursor rest same spells _
  obtain ⟨span, next, taken, spells⟩ := spells.take
  obtain ⟨found', middle, same', spells, given⟩ := reads.before spells rfl
  obtain ⟨_, last, closed, spells⟩ := spells.consume
  refine ⟨index ⟨last.nextId, found.spanTo last.previousEnd⟩ found found' nullSafe, last.mint,
    by simp [same, same'], spells_nil.mp spells, ?_⟩
  rw [parseOperator]
  cases nullSafe
  all_goals
    refine taken.andThen fun _ => given.after fun _ => ?_
    exact closed.after fun _ => build_gives _ _ _ _

theorem orElse_continues {right : Expr} (reads : Reads .lowest words right) (node : Node) (left : Expr) :
    Continues left (TokenKind.elvis.word :: words) 0 (binary node .orElse left right) := by
  intro found cursor rest same spells loose
  obtain ⟨span, next, taken, spells⟩ := spells.take
  obtain ⟨found', last, same', there, given⟩ := reads next rest spells loose
  refine ⟨binary ⟨last.nextId, found.spanTo found'.span.stop⟩ .orElse found found', last.mint,
    by simp [same, same'], there, ?_⟩
  rw [parseOperator]
  refine taken.andThen fun _ => ?_
  exact given.after fun _ => build_gives _ _ _ _

theorem conditional_continues {thenValue elseValue : Expr} (reads : Reads .lowest words thenValue)
    (reads' : Reads .lowest words' elseValue) (node : Node) (left : Expr) :
    Continues left (TokenKind.question.word :: (words ++ (TokenKind.colon.word :: words'))) 0
      (conditional node left thenValue elseValue) := by
  intro found cursor rest same spells loose
  obtain ⟨span, next, taken, spells⟩ := spells.take
  obtain ⟨found', middle, same', spells, given⟩ := reads.before spells rfl
  obtain ⟨_, later, passed, spells⟩ := spells.consumeFor "expected `:` in conditional expression"
  obtain ⟨found'', last, same'', there, given'⟩ := reads' later rest spells loose
  refine ⟨conditional ⟨last.nextId, found.spanTo found''.span.stop⟩ found found' found'', last.mint,
    by simp [same, same', same''], there, ?_⟩
  rw [parseOperator]
  refine taken.andThen fun _ => given.after fun _ => ?_
  refine passed.after fun _ => ?_
  exact given'.after fun _ => build_gives _ _ _ _

theorem binary_continues {operator : BinaryOperator} {right : Expr} (reads : Reads operator.power words right)
    (other : operator ≠ .orElse) (node : Node) (left : Expr) :
    Continues left (operator.kind.word :: words) operator.power.level (binary node operator left right) := by
  intro found cursor rest same spells loose
  obtain ⟨span, next, taken, spells⟩ := spells.take
  obtain ⟨found', last, same', there, given⟩ := reads next rest spells loose
  refine ⟨binary ⟨last.nextId, found.spanTo found'.span.stop⟩ operator found found', last.mint,
    by simp [same, same'], there, ?_⟩
  rw [parseOperator]
  refine taken.andThen fun _ => ?_
  cases operator with
  | orElse => exact absurd rfl other
  | _ => exact given.after fun _ => build_gives _ _ _ _

end operators

section operands

theorem grouped_operand (reads : Reads .lowest words expr) (limit : Nat) : Operand (grouped true words) limit expr := by
  intro cursor rest spells _
  obtain ⟨span, next, taken, spells⟩ := spells.take
  obtain ⟨found, middle, same, spells, given⟩ := reads.before spells rfl
  obtain ⟨_, last, closed, spells⟩ := spells.consume
  refine ⟨found, last, same, spells_nil.mp spells, ?_⟩
  rw [parseOperand]
  refine taken.andThen fun _ => given.after fun _ => ?_
  exact closed.after fun _ => gives_ok _

theorem unary_operand {operand : Expr} (reads : Reads .unary words operand) (node : Node) (operator : UnaryOperator) :
    Operand (operator.kind.word :: words) BindingPower.unary.level (unary node operator operand) := by
  intro cursor rest spells loose
  obtain ⟨span, next, taken, spells⟩ := spells.take
  obtain ⟨found, last, same, there, given⟩ := reads next rest spells loose
  refine ⟨unary ⟨last.nextId, ⟨span.start, found.span.stop⟩⟩ operator found, last.mint, by simp [same], there, ?_⟩
  rw [parseOperand]
  refine taken.andThen fun _ => ?_
  cases operator
  all_goals exact given.after fun _ => build_gives _ _ _ _

def ofWord? : Word → Option (Node → Expr)
  | (.number, text) => ofNumeral? text
  | (.string, value) => some (string · value)
  | (.nullWord, _) => some null
  | (.trueWord, _) => some (bool · true)
  | (.falseWord, _) => some (bool · false)
  | (.variableName, name) => some (var · name)
  | _ => none

theorem word_operand {word : Word} (make : Node → Expr) (reads : ofWord? word = some make)
    (same : ∀ node, (make node).shape = expr.shape) (limit : Nat) : Operand [word] limit expr := by
  intro cursor rest spells _
  obtain ⟨span, next, taken, spells⟩ := spells.take
  refine ⟨make ⟨next.nextId, span⟩, next.mint, same _, spells_nil.mp spells, ?_⟩
  rw [parseOperand]
  refine taken.andThen fun shorter => ?_
  unfold ofWord? at reads
  split at reads
  · simp only [reads]
    exact ⟨shorter, rfl⟩
  · cases reads; exact ⟨shorter, rfl⟩
  · cases reads; exact ⟨shorter, rfl⟩
  · cases reads; exact ⟨shorter, rfl⟩
  · cases reads; exact ⟨shorter, rfl⟩
  · cases reads; exact ⟨shorter, rfl⟩
  · cases reads

end operands

section sequences

variable {spell : Node → String}

def starters : List TokenKind :=
  [.number, .string, .nullWord, .trueWord, .falseWord, .variableName, .identifier, .dash, .notWord, .openParen, .openBracket]

theorem starts_of_parse (given : (parse power cursor).Gives expr next) :
    cursor.kind ∈ starters ∧ (cursor.kind = .identifier → cursor.peek 1 = .openParen) := by
  rw [parse] at given
  obtain ⟨_, _, _, operand, _⟩ := given.of_andThen
  rw [parseOperand] at operand
  obtain ⟨token, later, _, taken, operand⟩ := operand.of_andThen
  obtain ⟨same, ahead⟩ := current_of_take taken
  rw [kind, same, ahead]
  split at operand
  case h_7 named =>
    obtain ⟨_, _, opened⟩ := operand.of_after
    exact ⟨by simp [named, starters], fun _ => kind_of_consumeFor opened⟩
  case h_12 =>
    obtain ⟨_, impossible⟩ := operand
    cases impossible
  all_goals
    rename_i here
    rw [here]
    exact ⟨by decide, fun other => absurd other (by decide)⟩

theorem kind_of_parse (given : (parse power cursor).Gives expr next) :
    cursor.kind ≠ .closeParen ∧ cursor.kind ≠ .closeBracket ∧ cursor.kind ≠ .colon := by
  have starts := (starts_of_parse given).1
  refine ⟨?_, ?_, ?_⟩
  all_goals
    intro here
    rw [here] at starts
    exact absurd starts (by decide)

theorem ends_items (items : List Expr) {kind : TokenKind} (closing : ofKind kind = .lowest) :
    Ends (bareItems spell items ++ [kind.word]) := by
  cases items with
  | nil => exact closing
  | cons item rest => rfl

-- After an item of a list comes no colon, so it is not a key.
theorem items_apart {items : List Expr}
    (spells : cursor.Spells (bareItems spell items ++ [TokenKind.closeBracket.word]) rest) : cursor.kind ≠ .colon := by
  cases items with
  | nil =>
    have here : cursor.kind = .closeBracket := spells.kind_eq
    rw [here]
    exact nofun
  | cons item others =>
    have here : cursor.kind = .comma := spells.kind_eq
    rw [here]
    exact nofun

theorem items_read {items : List Expr} (reads : ∀ item ∈ items, Reads .lowest (bare spell item) item)
    (spells : cursor.Spells (bareItems spell items ++ [TokenKind.closeBracket.word]) rest) :
    ∃ found next, shapes found = shapes items ∧ next.Spells [TokenKind.closeBracket.word] rest ∧
      (parseItems cursor).Gives found next := by
  induction items generalizing cursor with
  | nil =>
    have here : cursor.kind = .closeBracket := spells.kind_eq
    refine ⟨[], cursor, rfl, spells, ?_⟩
    rw [parseItems, if_neg (by simp [here])]
    exact gives_ok _
  | cons item others ih =>
    rw [List.forall_mem_cons] at reads
    rw [bareItems, List.cons_append, List.append_assoc] at spells
    have here : cursor.kind = .comma := spells.kind_eq
    obtain ⟨_, middle, passed, spells⟩ := spells.consume
    obtain ⟨found, later, same, spells, given⟩ := reads.1.before spells (ends_items others rfl)
    obtain ⟨founds, next, sames, spells', givens⟩ := ih reads.2 spells
    refine ⟨found :: founds, next, by rw [shapes, shapes, same, sames], spells', ?_⟩
    have apart := items_apart spells
    rw [parseItems, if_pos here]
    refine (passed.andThen fun _ => ?_).loosen
    rw [if_neg (kind_of_parse given).2.1]
    refine given.after fun _ => ?_
    rw [if_neg apart]
    exact givens.upTo fun _ => gives_ok _

theorem ends_entries (entries : List (Expr × Expr)) {kind : TokenKind} (closing : ofKind kind = .lowest) :
    Ends (bareEntries spell entries ++ [kind.word]) := by
  cases entries with
  | nil => exact closing
  | cons entry rest => rfl

theorem entries_read {entries : List (Expr × Expr)}
    (reads : ∀ entry ∈ entries, Reads .lowest (bare spell entry.1) entry.1 ∧ Reads .lowest (bare spell entry.2) entry.2)
    (spells : cursor.Spells (bareEntries spell entries ++ [TokenKind.closeBracket.word]) rest) :
    ∃ found next, entryShapes found = entryShapes entries ∧ next.Spells [TokenKind.closeBracket.word] rest ∧
      (parseEntries cursor).Gives found next := by
  induction entries generalizing cursor with
  | nil =>
    have here : cursor.kind = .closeBracket := spells.kind_eq
    refine ⟨[], cursor, rfl, spells, ?_⟩
    rw [parseEntries, if_neg (by simp [here])]
    exact gives_ok _
  | cons entry others ih =>
    obtain ⟨key, value⟩ := entry
    rw [List.forall_mem_cons] at reads
    simp only [bareEntries, List.cons_append, List.append_assoc] at spells
    have here : cursor.kind = .comma := spells.kind_eq
    obtain ⟨_, middle, passed, spells⟩ := spells.consume
    obtain ⟨found, later, same, spells, given⟩ := reads.1.1.before spells rfl
    have colon : later.kind = .colon := spells.kind_eq
    obtain ⟨_, after', parted, spells⟩ := spells.consume
    obtain ⟨found', last, same', spells, given'⟩ := reads.1.2.before spells (ends_entries others rfl)
    obtain ⟨founds, next, sames, spells, givens⟩ := ih reads.2 spells
    refine ⟨(found, found') :: founds, next, by rw [entryShapes, entryShapes, same, same', sames], spells, ?_⟩
    rw [parseEntries, if_pos here]
    refine (passed.andThen fun _ => ?_).loosen
    rw [if_neg (kind_of_parse given).2.1]
    refine given.after fun _ => ?_
    rw [if_pos colon]
    refine parted.after fun _ => given'.after fun _ => ?_
    exact givens.upTo fun _ => gives_ok _

theorem arguments_read {first : Expr} {others : List Expr} (reads : ∀ arg ∈ first :: others, Reads .lowest (bare spell arg) arg)
    (spells : cursor.Spells (bare spell first ++ (bareItems spell others ++ [TokenKind.closeParen.word])) rest) :
    ∃ found next, shapes found = shapes (first :: others) ∧ next.Spells [TokenKind.closeParen.word] rest ∧
      (parseArguments cursor).Gives found next := by
  induction others generalizing first cursor with
  | nil =>
    rw [List.forall_mem_cons] at reads
    obtain ⟨found, next, same, spells, given⟩ := reads.1.before spells rfl
    have here : next.kind = .closeParen := spells.kind_eq
    refine ⟨[found], next, by rw [shapes, shapes, same]; rfl, spells, ?_⟩
    rw [parseArguments, if_neg (kind_of_parse given).1]
    refine (given.andThen fun _ => ?_).loosen
    rw [if_neg (by simp [here])]
    exact gives_ok _
  | cons second others ih =>
    rw [List.forall_mem_cons] at reads
    obtain ⟨found, middle, same, spells, given⟩ := reads.1.before spells rfl
    rw [bareItems, List.cons_append, List.append_assoc] at spells
    have here : middle.kind = .comma := spells.kind_eq
    obtain ⟨_, later, passed, spells⟩ := spells.consume
    obtain ⟨founds, next, sames, spells, givens⟩ := ih reads.2 spells
    refine ⟨found :: founds, next, by rw [shapes, same, sames]; rfl, spells, ?_⟩
    rw [parseArguments, if_neg (kind_of_parse given).1]
    refine (given.andThen fun _ => ?_).loosen
    rw [if_pos here]
    refine passed.after fun _ => ?_
    exact givens.upTo fun _ => gives_ok _

theorem collection_operand
    (reads : ∀ (cursor : Cursor) (rest : List Token) (start : Position), cursor.Spells words rest →
      ∃ found next, found.shape = expr.shape ∧ next.rest = rest ∧ (parseCollection start cursor).Gives found next)
    (limit : Nat) : Operand (TokenKind.openBracket.word :: words) limit expr := by
  intro cursor rest spells _
  obtain ⟨span, middle, taken, spells⟩ := spells.take
  obtain ⟨found, next, same, there, given⟩ := reads middle rest span.start spells
  refine ⟨found, next, same, there, ?_⟩
  rw [parseOperand]
  refine taken.andThen fun _ => ?_
  exact given.after fun _ => gives_ok _

theorem list_operand {items : List Expr} (reads : ∀ item ∈ items, Reads .lowest (bare spell item) item) (node : Node)
    (limit : Nat) : Operand (bare spell (list node items)) limit (list node items) := by
  cases items with
  | nil =>
    rw [bare]
    refine collection_operand (fun cursor rest start spells => ?_) limit
    have here : cursor.kind = .closeBracket := spells.kind_eq
    obtain ⟨_, last, closed, spells⟩ := spells.consume
    refine ⟨list ⟨last.nextId, ⟨start, last.previousEnd⟩⟩ [], last.mint, rfl, spells_nil.mp spells, ?_⟩
    rw [parseCollection, if_neg (by simp [here]), if_pos here]
    exact closed.andThen fun _ => build_gives _ _ _ _
  | cons first others =>
    rw [List.forall_mem_cons] at reads
    rw [bare]
    refine collection_operand (fun cursor rest start spells => ?_) limit
    obtain ⟨found, middle, same, spells, given⟩ := reads.1.before spells (ends_items others rfl)
    have apart := items_apart spells
    obtain ⟨founds, later, sames, spells, givens⟩ := items_read reads.2 spells
    obtain ⟨_, last, closed, spells⟩ := spells.consume
    refine ⟨list ⟨last.nextId, ⟨start, last.previousEnd⟩⟩ (found :: founds), last.mint,
      by rw [shape, shape, shapes, shapes, same, sames], spells_nil.mp spells, ?_⟩
    obtain ⟨_, open', colon⟩ := kind_of_parse given
    rw [parseCollection, if_neg (by simp [colon]), if_neg open']
    refine given.andThen fun _ => ?_
    rw [if_neg apart]
    refine givens.upTo fun _ => ?_
    exact closed.after fun _ => build_gives _ _ _ _

theorem map_operand {entries : List (Expr × Expr)}
    (reads : ∀ entry ∈ entries, Reads .lowest (bare spell entry.1) entry.1 ∧ Reads .lowest (bare spell entry.2) entry.2)
    (node : Node) (limit : Nat) : Operand (bare spell (map node entries)) limit (map node entries) := by
  cases entries with
  | nil =>
    rw [bare]
    refine collection_operand (fun cursor rest start spells => ?_) limit
    have here : cursor.kind = .colon := spells.kind_eq
    have second : cursor.peek 1 = .closeBracket := spells.peek_eq
    obtain ⟨_, middle, parted, spells⟩ := spells.consume
    obtain ⟨_, last, closed, spells⟩ := spells.consume
    refine ⟨map ⟨last.nextId, ⟨start, last.previousEnd⟩⟩ [], last.mint, rfl, spells_nil.mp spells, ?_⟩
    rw [parseCollection, if_pos ⟨here, second⟩]
    refine parted.andThen fun _ => ?_
    exact closed.after fun _ => build_gives _ _ _ _
  | cons entry others =>
    obtain ⟨key, value⟩ := entry
    rw [List.forall_mem_cons] at reads
    rw [bare]
    refine collection_operand (fun cursor rest start spells => ?_) limit
    obtain ⟨found, middle, same, spells, given⟩ := reads.1.1.before spells rfl
    have here : middle.kind = .colon := spells.kind_eq
    obtain ⟨_, after', parted, spells⟩ := spells.consume
    obtain ⟨found', later, same', spells, given'⟩ := reads.1.2.before spells (ends_entries others rfl)
    obtain ⟨founds, ended, sames, spells, givens⟩ := entries_read reads.2 spells
    obtain ⟨_, last, closed, spells⟩ := spells.consume
    refine ⟨map ⟨last.nextId, ⟨start, last.previousEnd⟩⟩ ((found, found') :: founds), last.mint,
      by rw [shape, shape, entryShapes, entryShapes, same, same', sames], spells_nil.mp spells, ?_⟩
    obtain ⟨_, open', colon⟩ := kind_of_parse given
    rw [parseCollection, if_neg (by simp [colon]), if_neg open']
    refine given.andThen fun _ => ?_
    rw [if_pos here]
    refine parted.after fun _ => given'.after fun _ => ?_
    refine givens.upTo fun _ => ?_
    exact closed.after fun _ => build_gives _ _ _ _

theorem invocation_operand {args : List Expr} (node : Node) (name : String)
    (reads : ∀ (cursor : Cursor) (rest : List Token), cursor.Spells words rest →
      ∃ found next, shapes found = shapes args ∧ next.Spells [TokenKind.closeParen.word] rest ∧
        (parseArguments cursor).Gives found next)
    (limit : Nat) : Operand ((.identifier, name) :: TokenKind.openParen.word :: words) limit (call node name args) := by
  intro cursor rest spells _
  obtain ⟨span, inside, taken, spells⟩ := spells.take
  obtain ⟨_, middle, opened, spells⟩ := spells.consumeFor "expected `(` after function name"
  obtain ⟨founds, later, sames, spells, givens⟩ := reads middle rest spells
  obtain ⟨_, last, closed, spells⟩ := spells.consume
  refine ⟨call ⟨last.nextId, ⟨span.start, last.previousEnd⟩⟩ name founds, last.mint, by rw [shape, shape, sames],
    spells_nil.mp spells, ?_⟩
  rw [parseOperand]
  refine taken.andThen fun _ => opened.after fun _ => ?_
  refine givens.upTo fun _ => ?_
  exact closed.after fun _ => build_gives _ _ _ _

theorem call_operand {args : List Expr} (reads : ∀ arg ∈ args, Reads .lowest (bare spell arg) arg) (node : Node)
    (name : String) (limit : Nat) : Operand (bare spell (call node name args)) limit (call node name args) := by
  cases args with
  | nil =>
    rw [bare]
    refine invocation_operand node name (fun cursor rest spells => ⟨[], cursor, rfl, spells, ?_⟩) limit
    rw [parseArguments, if_pos spells.kind_eq]
    exact gives_ok _
  | cons first others =>
    rw [bare]
    exact invocation_operand node name (fun cursor rest spells => arguments_read reads spells) limit

end sequences

end TypedTemplate.Expr
