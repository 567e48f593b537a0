import TypedTemplate.Proofs.Expr.Write
import TypedTemplate.Proofs.Token.Prolonged

namespace TypedTemplate.Expr

open Parsed Cursor

variable {rest : List Token} {cursor cursor' : Cursor}

def dividers : List TokenKind := [.comma, .colon, .closeParen, .closeBracket]

structure Idle (rest : List Token) : Prop where
  binds : BindingPower.ofKind (.ahead rest) = .lowest
  divides : TokenKind.ahead rest ∉ dividers

theorem Idle.ofKind_eq (idle : Idle rest) (prolongs : Prolongs rest cursor cursor') :
    BindingPower.ofKind cursor'.kind = .ofKind cursor.kind := by
  rcases prolongs.kinds with same | ends
  · rw [same]
  · rw [kind_eq_ahead, kind_eq_ahead, prolongs.of_nothing ends, ends, idle.binds]
    rfl

theorem Idle.kind_iff (idle : Idle rest) (prolongs : Prolongs rest cursor cursor') {kind : TokenKind}
    (divider : kind ∈ dividers) : cursor'.kind = kind ↔ cursor.kind = kind := by
  have inner : ∀ kind ∈ dividers, kind ≠ .eof := by decide
  refine prolongs.kind_iff (inner kind divider) fun same => ?_
  exact idle.divides (same ▸ divider)

theorem Idle.peek_iff (idle : Idle rest) (prolongs : Prolongs rest cursor cursor') {kind : TokenKind}
    (divider : kind ∈ dividers) (inner : cursor.kind ≠ .eof) : cursor'.peek 1 = kind ↔ cursor.peek 1 = kind := by
  obtain ⟨next, next', ahead, ahead', prolongs⟩ := prolongs.peek inner
  rw [ahead, ahead']
  exact idle.kind_iff prolongs divider

theorem ofNumeral?_shape {text : String} {make : Node → Expr} (found : ofNumeral? text = some make) (node node' : Node) :
    (make node').shape = (make node).shape := by
  unfold ofNumeral? at found
  split at found
  all_goals
    obtain ⟨value, _, rfl⟩ := Option.map_eq_some_iff.mp found
    rfl

theorem build_recurs {limit limit' : Nat} {span span' : Span} {make make' : Node → Expr} {shorter : cursor.size < limit}
    {shorter' : cursor'.size < limit'} (same : ∀ node node', (make' node').shape = (make node).shape)
    (prolongs : Prolongs rest cursor cursor') :
    (cursor.build span make shorter).Recurs rest shape (cursor'.build span' make' shorter') :=
  recurs_ok (same _ _) prolongs

-- With the rest behind it a piece is read as it is alone. What is looked at is the same until
-- nothing is left, and then the rest makes no difference to any test. The recursion is that
-- of the parser.
mutual
theorem parse_recurs (idle : Idle rest) (power : BindingPower) {cursor cursor' : Cursor}
    (prolongs : Prolongs rest cursor cursor') : (parse power cursor).Recurs rest shape (parse power cursor') := by
  rw [parse, parse]
  refine (parseOperand_recurs idle prolongs).andThen ?_
  intro left left' next next' _ _ same prolongs
  refine (extend_recurs idle power same prolongs).upTo ?_
  intro whole whole' done done' _ _ same prolongs
  exact recurs_ok same prolongs
termination_by 4 * cursor.size + 2

theorem parseOperand_recurs (idle : Idle rest) {cursor cursor' : Cursor} (prolongs : Prolongs rest cursor cursor') :
    (parseOperand cursor).Recurs rest shape (parseOperand cursor') := by
  rw [parseOperand, parseOperand]
  refine (take_recurs prolongs).andThen ?_
  rintro ⟨kind, value, span⟩ ⟨kind', value', span'⟩ next next' - - same prolongs
  cases same
  dsimp only
  split
  · split
    · rename_i make means
      exact build_recurs (ofNumeral?_shape means) prolongs
    · trivial
  · exact build_recurs (fun _ _ => rfl) prolongs
  · exact build_recurs (fun _ _ => rfl) prolongs
  · exact build_recurs (fun _ _ => rfl) prolongs
  · exact build_recurs (fun _ _ => rfl) prolongs
  · exact build_recurs (fun _ _ => rfl) prolongs
  · refine (consumeFor_recurs prolongs _ _).after ?_
    intro opening opening' inside inside' _ _ _ prolongs
    refine (parseArguments_recurs idle prolongs).upTo ?_
    intro args args' last last' _ _ same prolongs
    refine (consume_recurs prolongs _).after ?_
    intro closing closing' done done' _ _ _ prolongs
    exact build_recurs (fun _ _ => by simp [same]) prolongs
  · refine (parse_recurs idle .unary prolongs).after ?_
    intro operand operand' done done' _ _ same prolongs
    exact build_recurs (fun _ _ => by simp [same]) prolongs
  · refine (parse_recurs idle .unary prolongs).after ?_
    intro operand operand' done done' _ _ same prolongs
    exact build_recurs (fun _ _ => by simp [same]) prolongs
  · refine (parse_recurs idle .lowest prolongs).after ?_
    intro inner inner' last last' _ _ same prolongs
    refine (consume_recurs prolongs _).after ?_
    intro closing closing' done done' _ _ _ prolongs
    exact recurs_ok same prolongs
  · refine (parseCollection_recurs idle _ _ prolongs).after ?_
    intro whole whole' done done' _ _ same prolongs
    exact recurs_ok same prolongs
  · trivial
termination_by 4 * cursor.size + 1

theorem extend_recurs (idle : Idle rest) (power : BindingPower) {left left' : Expr} (same : left'.shape = left.shape)
    {cursor cursor' : Cursor} (prolongs : Prolongs rest cursor cursor') :
    (extend power left cursor).Recurs rest shape (extend power left' cursor') := by
  rw [extend, extend, idle.ofKind_eq prolongs]
  split
  · apply Recurs.loosen
    refine (parseOperator_recurs idle same prolongs).andThen ?_
    intro whole whole' next next' _ _ same prolongs
    refine (extend_recurs idle power same prolongs).upTo ?_
    intro whole whole' done done' _ _ same prolongs
    exact recurs_ok same prolongs
  · exact recurs_ok same prolongs
termination_by 4 * cursor.size + 2

theorem parseOperator_recurs (idle : Idle rest) {left left' : Expr} (same : left'.shape = left.shape)
    {cursor cursor' : Cursor} (prolongs : Prolongs rest cursor cursor') :
    (parseOperator left cursor).Recurs rest shape (parseOperator left' cursor') := by
  rw [parseOperator, parseOperator]
  refine (take_recurs prolongs).andThen ?_
  rintro ⟨kind, value, span⟩ ⟨kind', value', span'⟩ next next' - - alike prolongs
  cases alike
  dsimp only
  split
  · refine (parse_recurs idle .lowest prolongs).after ?_
    intro right right' done done' _ _ same' prolongs
    exact build_recurs (fun _ _ => by simp [same, same']) prolongs
  · refine (parse_recurs idle .lowest prolongs).after ?_
    intro thenValue thenValue' middle middle' _ _ same' prolongs
    refine (consumeFor_recurs prolongs _ _).after ?_
    intro colon colon' last last' _ _ _ prolongs
    refine (parse_recurs idle .lowest prolongs).after ?_
    intro elseValue elseValue' done done' _ _ same'' prolongs
    exact build_recurs (fun _ _ => by simp [same, same', same'']) prolongs
  · refine (consumeFor_recurs prolongs _ _).after ?_
    rintro ⟨_, name, _⟩ ⟨_, name', _⟩ done done' - - named prolongs
    cases named
    exact build_recurs (fun _ _ => by simp [same]) prolongs
  · refine (consumeFor_recurs prolongs _ _).after ?_
    rintro ⟨_, name, _⟩ ⟨_, name', _⟩ done done' - - named prolongs
    cases named
    exact build_recurs (fun _ _ => by simp [same]) prolongs
  · refine (parse_recurs idle .lowest prolongs).after ?_
    intro key key' last last' _ _ same' prolongs
    refine (consume_recurs prolongs _).after ?_
    intro closing closing' done done' _ _ _ prolongs
    exact build_recurs (fun _ _ => by simp [same, same']) prolongs
  · refine (parse_recurs idle .lowest prolongs).after ?_
    intro key key' last last' _ _ same' prolongs
    refine (consume_recurs prolongs _).after ?_
    intro closing closing' done done' _ _ _ prolongs
    exact build_recurs (fun _ _ => by simp [same, same']) prolongs
  · split
    · trivial
    · refine (parse_recurs idle _ prolongs).after ?_
      intro right right' done done' _ _ same' prolongs
      exact build_recurs (fun _ _ => by simp [same, same']) prolongs
termination_by 4 * cursor.size + 1

theorem parseArguments_recurs (idle : Idle rest) {cursor cursor' : Cursor} (prolongs : Prolongs rest cursor cursor') :
    (parseArguments cursor).Recurs rest shapes (parseArguments cursor') := by
  rw [parseArguments, parseArguments]
  simp only [idle.kind_iff prolongs (show TokenKind.closeParen ∈ dividers by decide)]
  split
  · exact recurs_ok rfl prolongs
  · apply Recurs.loosen
    refine (parse_recurs idle .lowest prolongs).andThen ?_
    intro first first' next next' _ _ same prolongs
    simp only [idle.kind_iff prolongs (show TokenKind.comma ∈ dividers by decide)]
    split
    · refine (consume_recurs prolongs _).after ?_
      intro comma comma' more more' _ _ _ prolongs
      refine (parseArguments_recurs idle prolongs).upTo ?_
      intro rest rest' done done' _ _ same' prolongs
      exact recurs_ok (by simp [same, same']) prolongs
    · exact recurs_ok (by simp [same]) prolongs
termination_by 4 * cursor.size + 3

theorem parseCollection_recurs (idle : Idle rest) (start start' : Position) {cursor cursor' : Cursor}
    (prolongs : Prolongs rest cursor cursor') :
    (parseCollection start cursor).Recurs rest shape (parseCollection start' cursor') := by
  have empty : cursor'.kind = .colon ∧ cursor'.peek 1 = .closeBracket ↔
      cursor.kind = .colon ∧ cursor.peek 1 = .closeBracket := by
    rw [idle.kind_iff prolongs (by decide)]
    exact and_congr_right fun here => idle.peek_iff prolongs (by decide) (by simp [here])
  rw [parseCollection, parseCollection]
  simp only [empty, idle.kind_iff prolongs (show TokenKind.closeBracket ∈ dividers by decide)]
  split
  · refine (consume_recurs prolongs _).andThen ?_
    intro colon colon' last last' _ _ _ prolongs
    refine (consume_recurs prolongs _).after ?_
    intro closing closing' done done' _ _ _ prolongs
    exact build_recurs (fun _ _ => rfl) prolongs
  split
  · refine (consume_recurs prolongs _).andThen ?_
    intro closing closing' done done' _ _ _ prolongs
    exact build_recurs (fun _ _ => rfl) prolongs
  · refine (parse_recurs idle .lowest prolongs).andThen ?_
    intro first first' next next' _ _ same prolongs
    simp only [idle.kind_iff prolongs (show TokenKind.colon ∈ dividers by decide)]
    split
    · refine (consume_recurs prolongs _).after ?_
      intro colon colon' middle middle' _ _ _ prolongs
      refine (parse_recurs idle .lowest prolongs).after ?_
      intro value value' later later' _ _ same' prolongs
      refine (parseEntries_recurs idle prolongs).upTo ?_
      intro entries entries' last last' _ _ sames prolongs
      refine (consume_recurs prolongs _).after ?_
      intro closing closing' done done' _ _ _ prolongs
      exact build_recurs (fun _ _ => by simp [same, same', sames]) prolongs
    · refine (parseItems_recurs idle prolongs).upTo ?_
      intro items items' last last' _ _ sames prolongs
      refine (consume_recurs prolongs _).after ?_
      intro closing closing' done done' _ _ _ prolongs
      exact build_recurs (fun _ _ => by simp [same, sames]) prolongs
termination_by 4 * cursor.size + 3

theorem parseItems_recurs (idle : Idle rest) {cursor cursor' : Cursor} (prolongs : Prolongs rest cursor cursor') :
    (parseItems cursor).Recurs rest shapes (parseItems cursor') := by
  rw [parseItems, parseItems]
  simp only [idle.kind_iff prolongs (show TokenKind.comma ∈ dividers by decide)]
  split
  · apply Recurs.loosen
    refine (consume_recurs prolongs _).andThen ?_
    intro comma comma' next next' _ _ _ prolongs
    simp only [idle.kind_iff prolongs (show TokenKind.closeBracket ∈ dividers by decide)]
    split
    · exact recurs_ok rfl prolongs
    · refine (parse_recurs idle .lowest prolongs).after ?_
      intro item item' later later' _ _ same prolongs
      simp only [idle.kind_iff prolongs (show TokenKind.colon ∈ dividers by decide)]
      split
      · trivial
      · refine (parseItems_recurs idle prolongs).upTo ?_
        intro items items' done done' _ _ sames prolongs
        exact recurs_ok (by simp [same, sames]) prolongs
  · exact recurs_ok rfl prolongs
termination_by 4 * cursor.size + 3

theorem parseEntries_recurs (idle : Idle rest) {cursor cursor' : Cursor} (prolongs : Prolongs rest cursor cursor') :
    (parseEntries cursor).Recurs rest entryShapes (parseEntries cursor') := by
  rw [parseEntries, parseEntries]
  simp only [idle.kind_iff prolongs (show TokenKind.comma ∈ dividers by decide)]
  split
  · apply Recurs.loosen
    refine (consume_recurs prolongs _).andThen ?_
    intro comma comma' next next' _ _ _ prolongs
    simp only [idle.kind_iff prolongs (show TokenKind.closeBracket ∈ dividers by decide)]
    split
    · exact recurs_ok rfl prolongs
    · refine (parse_recurs idle .lowest prolongs).after ?_
      intro key key' middle middle' _ _ same prolongs
      simp only [idle.kind_iff prolongs (show TokenKind.colon ∈ dividers by decide)]
      split
      · refine (consume_recurs prolongs _).after ?_
        intro colon colon' later later' _ _ _ prolongs
        refine (parse_recurs idle .lowest prolongs).after ?_
        intro value value' last last' _ _ same' prolongs
        refine (parseEntries_recurs idle prolongs).upTo ?_
        intro entries entries' done done' _ _ sames prolongs
        exact recurs_ok (by simp [same, same', sames]) prolongs
      · trivial
  · exact recurs_ok rfl prolongs
termination_by 4 * cursor.size + 3
end

end TypedTemplate.Expr
