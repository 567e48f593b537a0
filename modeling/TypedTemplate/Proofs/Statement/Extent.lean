import TypedTemplate.Proofs.Expr.Extent
import TypedTemplate.Proofs.Statement.Inside
import TypedTemplate.Proofs.Statement.Phrase
import TypedTemplate.Proofs.TypeExpr.Places

namespace TypedTemplate.Statement

open Token (InOrder Spread)

def branchParts (branch : Branch (List Statement)) : List Span :=
  branch.condition.span :: branch.body.map Statement.span

def optionalParts : Option (List Statement) → List Span
  | none => []
  | some body => body.map Statement.span

def parts : Statement → List Span
  | text .. | param .. => []
  | print expr _ _ => [expr.span]
  | letValue _ value _ => [value.span]
  | letBlock _ body _ => body.map Statement.span
  | choose branches otherwise _ => branches.flatMap branchParts ++ optionalParts otherwise
  | foreach _ iterable body ifEmpty _ => iterable.span :: (body.map Statement.span ++ optionalParts ifEmpty)

def annotation : Statement → List Position
  | param _ _ typeExpr _ => typeExpr.places
  | _ => []

structure Settled (tokens : List Token) (statement : Statement) : Prop where
  among : statement.span.Among tokens
  encloses : statement.span.Encloses statement.parts
  expressions : ∀ expr ∈ statement.ownExpressions, expr.Lies tokens
  annotated : Token.Begins tokens statement.annotation

-- Expressions and statements made of some tokens, and spans in their order. What a statement
-- is read from is put together of such pieces.
structure Parts (tokens : List Token) (spans : List Span) (exprs : List Expr) (inner : List Statement) : Prop where
  spread : Spread tokens spans
  expressions : ∀ expr ∈ exprs, expr.Lies tokens
  statements : ∀ statement ∈ inner, statement.Settled tokens

variable {tokens tokens' : List Token} {token first last : Token} {spans spans' : List Span} {exprs exprs' : List Expr}
  {inner inner' : List Statement} {statement : Statement}

theorem Settled.mono (settled : statement.Settled tokens) (more : tokens ⊆ tokens') : statement.Settled tokens' :=
  ⟨settled.among.mono more, settled.encloses, fun expr own => (settled.expressions expr own).mono more,
    settled.annotated.mono more⟩

namespace Parts

theorem none (tokens : List Token) : Parts tokens [] [] [] := ⟨.none tokens, nofun, nofun⟩

theorem mono (parts : Parts tokens spans exprs inner) (more : tokens ⊆ tokens') : Parts tokens' spans exprs inner :=
  ⟨parts.spread.mono more, fun expr listed => (parts.expressions expr listed).mono more,
    fun statement listed => (parts.statements statement listed).mono more⟩

theorem append (ordered : InOrder (tokens ++ tokens')) (earlier : Parts tokens spans exprs inner)
    (later : Parts tokens' spans' exprs' inner') :
    Parts (tokens ++ tokens') (spans ++ spans') (exprs ++ exprs') (inner ++ inner') := by
  have earlier' := earlier.mono (List.subset_append_left tokens tokens')
  have later' := later.mono (List.subset_append_right tokens tokens')
  refine ⟨earlier.spread.append ordered later.spread, fun expr listed => ?_, fun statement listed => ?_⟩
  · exact (List.mem_append.mp listed).elim (earlier'.expressions expr) (later'.expressions expr)
  · exact (List.mem_append.mp listed).elim (earlier'.statements statement) (later'.statements statement)

theorem ofExpr {expr : Expr} (lies : expr.Lies tokens) : Parts tokens [expr.span] [expr] [] :=
  ⟨lies.spread, by simpa using lies, nofun⟩

theorem ofStatement (settled : ∀ deeper ∈ statement.inside, deeper.Settled tokens) :
    Parts tokens [statement.span] [] statement.inside :=
  ⟨.single (settled statement statement.self_mem_inside).among, nofun, settled⟩

theorem skip (parts : Parts tokens spans exprs inner) : Parts (token :: tokens) spans exprs inner :=
  parts.mono (List.subset_cons_self _ _)

theorem behind (parts : Parts tokens spans exprs inner) : Parts (tokens' ++ tokens) spans exprs inner :=
  parts.mono (List.subset_append_right _ _)

theorem opened (ordered : InOrder (token :: tokens)) (parts : Parts tokens spans exprs inner) :
    Parts (token :: tokens) (token.span :: spans) exprs inner :=
  ⟨.cons ordered parts.spread, parts.skip.expressions, parts.skip.statements⟩

theorem closed (front : List Token) (ordered : InOrder (tokens ++ (front ++ [last])))
    (parts : Parts tokens spans exprs inner) : Parts (tokens ++ (front ++ [last])) (spans ++ [last.span]) exprs inner := by
  have single : Spread (front ++ [last]) [last.span] :=
    (Spread.single ordered.right.right.among).mono (List.subset_append_right _ _)
  have wider := parts.mono (List.subset_append_left tokens (front ++ [last]))
  exact ⟨parts.spread.append ordered single, wider.expressions, wider.statements⟩

theorem settled (parts : Parts tokens spans statement.ownExpressions inner)
    (shape : spans = first.span :: (statement.parts ++ [last.span]))
    (same : statement.span = ⟨first.span.start, last.span.stop⟩)
    (annotated : Token.Begins tokens statement.annotation) : statement.Settled tokens := by
  have spread := parts.spread
  rw [shape] at spread
  refine ⟨same ▸ spread.whole, ?_, parts.expressions, annotated⟩
  rw [same]
  exact spread.encloses ((List.sublist_append_left _ _).cons _)

theorem whole (parts : Parts tokens spans statement.ownExpressions inner)
    (shape : spans = first.span :: (statement.parts ++ [last.span]))
    (same : statement.span = ⟨first.span.start, last.span.stop⟩)
    (annotated : Token.Begins tokens statement.annotation) (inside : statement.inside = statement :: inner) :
    ∀ deeper ∈ statement.inside, deeper.Settled tokens := by
  rw [inside]
  exact List.forall_mem_cons.mpr ⟨parts.settled shape same annotated, parts.statements⟩

end Parts

mutual
theorem Phrase.settled : ∀ {tokens : List Token} {statement : Statement}, Phrase tokens statement → InOrder tokens →
    ∀ deeper ∈ statement.inside, deeper.Settled tokens
  | _, _, .text _, ordered => List.forall_mem_singleton.mpr ⟨ordered.among, .none _, nofun, .none _⟩
  | _, _, .print _ _ read _ _, ordered => by
    have expr := Parts.ofExpr (read.lies ordered.tail.right.left)
    exact ((expr.closed _ ordered.tail.right).behind.opened ordered).whole rfl rfl (.none _) rfl
  | _, _, .param _ read _, ordered => by
    have closed := (Parts.none _).closed [] ordered.tail.tail.tail.tail
    exact (closed.skip.skip.skip.opened ordered).whole rfl rfl read.begins.before.skip.skip.skip.skip rfl
  | _, _, .letValue _ read _, ordered => by
    have within := ordered.tail.tail.tail.tail
    have closed := (Parts.ofExpr (read.lies within.left)).closed [] within
    exact (closed.skip.skip.skip.opened ordered).whole rfl rfl (.none _) rfl
  | _, _, .letBlock _ _ _ inside _, ordered => by
    have within := ordered.tail.tail.tail.right.tail
    have closed := (inside.settled within.left).closed [_, _] within
    exact (closed.skip.behind.skip.skip.opened ordered).whole rfl rfl (.none _) (by rw [Statement.inside])
  | _, _, .choose _ read others _, ordered => by
    have within := ordered.tail.tail
    have later := (others.settled within.right.left).closed [_, _] within.right
    have whole := (read.settled within.left).append within later
    refine (whole.skip.opened ordered).whole ?_ rfl (.none _) ?_
    · simp [parts]
    · simp [inside_choose, branchInside]
  | _, _, .foreach _ _ read _ inside otherwise _, ordered => by
    have within := ordered.tail.tail.tail.tail
    have within' := within.right.tail
    have later := (otherwise.settled within'.right.left).closed [_, _] within'.right
    have bodies := (inside.settled within'.left).append within' later
    have whole := (Parts.ofExpr (read.lies within.left)).append within bodies.skip
    refine (whole.skip.skip.skip.opened ordered).whole ?_ rfl (.none _) (inside_foreach _ _ _ _ _)
    simp [parts]

theorem BodyPhrase.settled : ∀ {tokens : List Token} {body : List Statement}, BodyPhrase tokens body → InOrder tokens →
    Parts tokens (body.map Statement.span) [] (bodyInside body)
  | _, _, .none, _ => .none _
  | _, _, .more read others, ordered =>
    (Parts.ofStatement (read.settled ordered.left)).append ordered (others.settled ordered.right)

theorem BranchPhrase.settled {start : Position} : ∀ {tokens : List Token} {branch : Branch (List Statement)},
    BranchPhrase start tokens branch → InOrder tokens →
      Parts tokens (branchParts branch) [branch.condition] (bodyInside branch.body)
  | _, _, .guarded read _ inside, ordered =>
    (Parts.ofExpr (read.lies ordered.left)).append ordered (inside.settled ordered.right.tail).skip

theorem ChainPhrase.settled : ∀ {tokens : List Token} {branches : List (Branch (List Statement))}
    {otherwise : Option (List Statement)}, ChainPhrase tokens branches otherwise → InOrder tokens →
      Parts tokens (branches.flatMap branchParts ++ optionalParts otherwise) (branches.map Branch.condition)
        (branchInside branches ++ optionalInside otherwise)
  | _, _, _, .last read, ordered => read.settled ordered
  | _, _, _, .more _ read others, ordered => by
    have within := ordered.tail.tail
    have whole := (read.settled within.left).append within (others.settled within.right)
    simpa [branchInside] using whole.skip.skip

theorem OptionalPhrase.settled {keyword : TokenKind} : ∀ {tokens : List Token} {body : Option (List Statement)},
    OptionalPhrase keyword tokens body → InOrder tokens → Parts tokens (optionalParts body) [] (optionalInside body)
  | _, _, .none, _ => .none _
  | _, _, .some _ inside, ordered => (inside.settled ordered.tail.tail.tail).skip.skip.skip
end

end TypedTemplate.Statement
