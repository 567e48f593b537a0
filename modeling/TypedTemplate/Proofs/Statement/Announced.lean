import TypedTemplate.Proofs.Expr.Prolonged
import TypedTemplate.Proofs.Statement.ReadBack

namespace TypedTemplate

open Parsed Cursor

theorem Expr.Reads.accepted {words : List Word} {expr : Expr} (reads : Reads .lowest words expr) :
    ∃ found, found.shape = expr.shape ∧ Accepts (parse .lowest) words found := by
  obtain ⟨found, next, same, ends, given⟩ := reads (.ofWords words) [] (spells_ofWords words) (Nat.le_refl 0)
  exact ⟨found, same, .ofWords words, next, map_rest_ofWords words, ends, given⟩

theorem Accepts.ne_nil {words : List Word} {expr : Expr} (accepts : Accepts (Expr.parse .lowest) words expr) : words ≠ [] := by
  rintro rfl
  obtain ⟨cursor, next, nothing, _, given⟩ := accepts
  have starts := (Expr.starts_of_parse given).1
  rw [kind_eq_ahead, List.map_eq_nil_iff.mp nothing] at starts
  exact absurd starts (by decide)

namespace Statement

variable {rest : List Token} {words expression directives : List Word} {expr : Expr} {names : List String}

theorem parseDirectiveArguments_recurs (idle : Expr.Idle rest) {cursor cursor' : Cursor} (prolongs : Prolongs rest cursor cursor') :
    (parseDirectiveArguments cursor).Recurs rest id (parseDirectiveArguments cursor') := by
  rw [parseDirectiveArguments, parseDirectiveArguments]
  simp only [idle.kind_iff prolongs (show TokenKind.comma ∈ Expr.dividers by decide)]
  split
  · apply Recurs.loosen
    refine (consume_recurs prolongs _).andThen ?_
    intro comma comma' next next' _ _ _ prolongs
    refine (Expr.parse_recurs idle .lowest prolongs).after ?_
    intro argument argument' later later' _ _ _ prolongs
    refine (parseDirectiveArguments_recurs idle prolongs).upTo ?_
    intro _ _ done done' _ _ _ prolongs
    exact recurs_ok rfl prolongs
  · exact recurs_ok rfl prolongs
termination_by cursor.size

theorem parseDirectives_recurs (idle : Expr.Idle rest) (last : TokenKind.ahead rest ≠ .pipe) {cursor cursor' : Cursor}
    (prolongs : Prolongs rest cursor cursor') : (parseDirectives cursor).Recurs rest id (parseDirectives cursor') := by
  have piped : cursor'.kind = .pipe ↔ cursor.kind = .pipe := prolongs.kind_iff (by decide) last
  rw [parseDirectives, parseDirectives]
  simp only [piped]
  split
  · apply Recurs.loosen
    refine (consume_recurs prolongs _).andThen ?_
    intro pipe pipe' nameStart nameStart' _ _ _ prolongs
    refine (consumeFor_recurs prolongs _ _).after ?_
    rintro ⟨_, name, _⟩ ⟨_, name', _⟩ afterName afterName' - - named prolongs
    cases named
    simp only [idle.kind_iff prolongs (show TokenKind.colon ∈ Expr.dividers by decide)]
    split
    · refine (consume_recurs prolongs _).after ?_
      intro colon colon' argumentStart argumentStart' _ _ _ prolongs
      refine (Expr.parse_recurs idle .lowest prolongs).after ?_
      intro argument argument' more more' _ _ _ prolongs
      refine (parseDirectiveArguments_recurs idle prolongs).upTo ?_
      intro _ _ next next' _ _ _ prolongs
      refine (parseDirectives_recurs idle last prolongs).upTo ?_
      intro others others' done done' _ _ same prolongs
      exact recurs_ok (by simpa using same) prolongs
    · refine (parseDirectives_recurs idle last prolongs).upTo ?_
      intro others others' done done' _ _ same prolongs
      exact recurs_ok (by simpa using same) prolongs
  · exact recurs_ok rfl prolongs
termination_by cursor.size

theorem idle_of_ahead {kind : TokenKind} (ahead : TokenKind.ahead rest = kind) (ends : kind = .closeCurly ∨ kind = .pipe) :
    Expr.Idle rest := by
  rcases ends with rfl | rfl
  all_goals exact ⟨by rw [ahead]; rfl, by rw [ahead]; decide⟩

theorem idle_directives (accepts : Accepts parseDirectives directives names) {tokens : List Token}
    (same : tokens.map Token.word = directives ++ (TokenKind.closeCurly.word :: words)) : Expr.Idle (tokens ++ rest) := by
  obtain ⟨cursor, next, rfl, ends, given⟩ := accepts
  cases here : cursor.rest with
  | nil =>
    rw [here] at same
    exact idle_of_ahead (TokenKind.ahead_word same) (.inl rfl)
  | cons token others =>
    have piped : token.kind = .pipe := by
      by_contra apart
      rw [parseDirectives, if_neg (by rwa [kind_eq_ahead, here])] at given
      obtain ⟨_, stays⟩ := given
      cases stays
      rw [here] at ends
      cases ends
    rw [here] at same
    exact idle_of_ahead (TokenKind.ahead_word same) (.inr piped)

theorem accepted_printed (accepts : Accepts (Expr.parse .lowest) expression expr)
    (accepts' : Accepts parseDirectives directives names) (span : Span) :
    Printed (expression ++ (directives ++ [TokenKind.closeCurly.word])) (print expr names span) := by
  intro opening cursor words rest spells
  rw [List.append_assoc, List.append_assoc] at spells
  obtain ⟨tokens, same, spells⟩ := spells.append
  have idle : Expr.Idle (tokens ++ rest) := idle_directives accepts' same
  obtain ⟨found, afterExpr, alike, there, given⟩ := accepts.before (fun _ _ => Expr.parse_recurs idle .lowest) spells
  obtain ⟨tokens', same', spells⟩ := (spells_of_rest there same).append
  have ahead : TokenKind.ahead (tokens' ++ rest) = .closeCurly := TokenKind.ahead_word same'
  have apart : TokenKind.ahead (tokens' ++ rest) ≠ .pipe := by
    rw [ahead]
    decide
  obtain ⟨names', last, (named : names' = names), there', given'⟩ :=
    accepts'.before (fun _ _ => parseDirectives_recurs (idle_of_ahead ahead (.inl rfl)) apart) spells
  obtain ⟨_, next, closed, spells⟩ := (spells_of_rest there' same').consume
  refine ⟨Expr.starts_of_parse given, print found names' ⟨opening.span.start, next.previousEnd⟩, next,
    by rw [shape, shape, alike, named], spells, ?_⟩
  rw [parsePrinted]
  refine given.andThen fun _ => given'.upTo fun _ => ?_
  exact closed.after fun _ => gives_ok _

def braced (words : List Word) : List Word := TokenKind.openCurly.word :: (words ++ [TokenKind.closeCurly.word])

def AnnouncedAlike (expression directives : List Word) (expr : Expr) (names : List String) : Prop :=
  ∀ (plain announced : Cursor) (rest rest' : List Token), plain.Spells (braced (expression ++ directives)) rest →
    announced.Spells (braced ((.identifier, "print") :: (expression ++ directives))) rest' →
    ∃ found found' next next', (parse plain).Gives found next ∧ (parse announced).Gives found' next' ∧
      found.shape = print expr.shape names .nowhere ∧ found'.shape = print expr.shape names .nowhere ∧
      next.rest = rest ∧ next'.rest = rest'

-- A printed expression may be announced, unless a parenthesis would make a call of it.
theorem accepted_announced_alike (accepts : Accepts (Expr.parse .lowest) expression expr)
    (accepts' : Accepts parseDirectives directives names) (free : expression.head?.map Prod.fst ≠ some .openParen) :
    AnnouncedAlike expression directives expr names := by
  intro plain announced rest rest' spells spells'
  obtain ⟨inner, joined⟩ : ∃ inner, expression ++ (directives ++ [TokenKind.closeCurly.word]) = inner := ⟨_, rfl⟩
  have printed : Printed inner (print expr names .nowhere) := joined ▸ accepted_printed accepts accepts' .nowhere
  have leads : inner.head?.map Prod.fst ≠ some .openParen := by
    rwa [← joined, List.head?_append_of_ne_nil _ accepts.ne_nil]
  have silent : Statement.announced false inner ++ [] = inner := by simp [Statement.announced]
  have spoken : Statement.announced true inner ++ [] = (.identifier, "print") :: inner := by
    rw [Statement.announced, if_pos ⟨rfl, leads⟩, List.append_nil]
  rw [braced, List.append_assoc, joined, ← silent] at spells
  rw [braced, List.cons_append, List.append_assoc, joined, ← spoken] at spells'
  obtain ⟨_, found, next, same, spells, given⟩ := printed.announced_reads false spells
  obtain ⟨_, found', next', same', spells', given'⟩ := printed.announced_reads true spells'
  exact ⟨found, found', next, next', given, given', same, same', spells_nil.mp spells, spells_nil.mp spells'⟩

-- `($a)`, `print($a)` and `|truncate: 8, true |trim`
def groupWords : List Word := [TokenKind.openParen.word, (.variableName, "a"), TokenKind.closeParen.word]

def callWords : List Word := (.identifier, "print") :: groupWords

def callExpr : Expr := .call (.numbered 0) "print" [.var (.numbered 0) "a"]

def cutWords : List Word :=
  [TokenKind.pipe.word, (.identifier, "truncate"), TokenKind.colon.word, (.number, "8"), TokenKind.comma.word,
    TokenKind.trueWord.word, TokenKind.pipe.word, (.identifier, "trim")]

theorem groupWords_accepted : ∃ expr, expr.shape = .var (.numbered 0) "a" ∧ Accepts (Expr.parse .lowest) groupWords expr := by
  have inner : Expr.ReadsBack (fun _ => "") (.var (.numbered 0) "a") :=
    Expr.reads_back _ (by simp [Expr.subterms, Expr.Spellable])
  have reads : Expr.Reads .lowest groupWords (.var (.numbered 0) "a") :=
    (Expr.grouped_operand inner.lowest 0).starts.reads (Nat.le_refl 0)
  exact reads.accepted

theorem callWords_accepted : ∃ expr, expr.shape = callExpr ∧ Accepts (Expr.parse .lowest) callWords expr := by
  have reads : Expr.ReadsBack (fun _ => "") callExpr :=
    Expr.reads_back _ (by simp [callExpr, Expr.subterms, Expr.subtermsOf, Expr.Spellable])
  exact reads.lowest.accepted

theorem accepted_announced_alike_callWords : ∃ expr, expr.shape = callExpr ∧ Accepts (Expr.parse .lowest) callWords expr ∧
    Accepts parseDirectives cutWords ["truncate", "trim"] ∧ callWords.head?.map Prod.fst ≠ some .openParen ∧
    AnnouncedAlike callWords cutWords expr ["truncate", "trim"] ∧
    ∃ found next, (parse (.ofWords (braced ((.identifier, "print") :: (callWords ++ cutWords))))).Gives found next ∧
      found.shape = print callExpr ["truncate", "trim"] .nowhere := by
  obtain ⟨expr, same, accepts⟩ := callWords_accepted
  have accepts' : Accepts parseDirectives cutWords ["truncate", "trim"] :=
    accepts_of_found (by decide +kernel) (by decide +kernel)
  have alike := accepted_announced_alike accepts accepts' (by decide)
  obtain ⟨_, found, _, next, _, given, _, shown, _⟩ :=
    alike (.ofWords _) (.ofWords _) [] [] (spells_ofWords _) (spells_ofWords _)
  exact ⟨expr, same, accepts, accepts', by decide, alike, found, next, given, by rw [shown, same]⟩

-- `{print ($a)}` calls a function, and `{($a)}` does not.
theorem accepted_not_always_alike : ¬∀ (expression directives : List Word) (expr : Expr) (names : List String),
    Accepts (Expr.parse .lowest) expression expr → Accepts parseDirectives directives names →
    AnnouncedAlike expression directives expr names := by
  intro alike
  obtain ⟨inner, same, grouped⟩ := groupWords_accepted
  obtain ⟨whole, same', called⟩ := callWords_accepted
  have nothing : Accepts parseDirectives [] [] := accepts_of_found (by decide +kernel) (by decide +kernel)
  have spells := spells_ofWords (braced callWords)
  obtain ⟨_, found, _, _, _, ⟨_, given⟩, _, shown, _⟩ :=
    alike groupWords [] inner [] grouped nothing _ _ [] [] (spells_ofWords _) spells
  obtain ⟨_, found', _, shown', _, ⟨_, given'⟩⟩ := (accepted_printed called nothing .nowhere).announced_reads false spells
  cases given.symm.trans given'
  rw [shown, shape, same, same'] at shown'
  cases shown'

end Statement
end TypedTemplate
