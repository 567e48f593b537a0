import TypedTemplate.Proofs.Token.Scan
import TypedTemplate.Proofs.TypeExpr.Lexing
import TypedTemplate.Proofs.TypeExpr.Phrase
import TypedTemplate.Proofs.TypeExpr.ReadBack
import TypedTemplate.Proofs.TypeExpr.Resolve

namespace TypedTemplate.TypeExpr

open Cursor

theorem parse_text (typeExpr : TypeExpr) (proper : typeExpr.Proper) (lexical : typeExpr.Lexical) (file : String) :
    ∃ tokens found next shorter closing, Token.tokenize ("\x7b" ++ typeExpr.text ++ "\x7d") file = .ok tokens ∧
      parse (Cursor.start tokens file).advance = .ok found next shorter ∧ found.shape = typeExpr.shape ∧
      next.rest = [closing] ∧ closing.word = TokenKind.closeCurly.word := by
  have opens : ['/'].isPrefixOf typeExpr.text.toList = false :=
    (text_opens typeExpr proper lexical).ne ⟨rfl, by decide, by decide⟩
  have lexes := text_gives typeExpr proper lexical ['}'] (closes_of (by decide) [])
  obtain ⟨opening, tokens, closing, ending, given, _, same, closes, ends⟩ := Token.tokenize_tag opens lexes file
  have ahead : (Cursor.start (opening :: tokens ++ [closing, ending]) file).advance.rest = tokens ++ [closing] := by
    have split : opening :: tokens ++ [closing, ending] = (opening :: (tokens ++ [closing])) ++ [ending] := by simp
    rw [split]
    exact rest_advance (rest_start _ ends file)
  have stops : Stops (.ahead [closing]) := by
    have kind : closing.kind = .closeCurly := congrArg Prod.fst closes
    rw [TokenKind.ahead, kind]
    exact ⟨nofun, nofun⟩
  have spells := spells_of_rest ahead same
  obtain ⟨found, next, alike, there, shorter, read⟩ := (reads_back typeExpr proper).1 _ [closing] spells stops
  exact ⟨_, found, next, shorter, closing, given, read, alike, there, closes⟩

def Flat : TypeExpr → Prop
  | union members => 2 ≤ members.length ∧ ∀ member ∈ members, member.isUnion = false
  | _ => True

mutual
theorem flat_of_proper : ∀ typeExpr : TypeExpr, typeExpr.Proper → ∀ part ∈ typeExpr.inside, part.Flat
  | named _ _, _ => by
    rw [inside, List.forall_mem_singleton]
    trivial
  | generic _ args _, proper => by
    rw [inside, List.forall_mem_cons]
    exact ⟨trivial, flat_of_allProper args proper.2⟩
  | record fields _, proper => by
    rw [inside, List.forall_mem_cons]
    exact ⟨trivial, flat_of_fieldsProper fields proper⟩
  | union members, proper => by
    rw [inside, List.forall_mem_cons]
    exact ⟨⟨proper.1, proper.2.1⟩, flat_of_allProper members proper.2.2⟩

theorem flat_of_allProper : ∀ typeExprs : List TypeExpr, AllProper typeExprs → ∀ part ∈ insideAll typeExprs, part.Flat
  | [], _ => nofun
  | typeExpr :: rest, proper => by
    rw [insideAll, List.forall_mem_append]
    exact ⟨flat_of_proper typeExpr proper.1, flat_of_allProper rest proper.2⟩

theorem flat_of_fieldsProper : ∀ fields : List (String × TypeExpr), FieldsProper fields →
    ∀ part ∈ insideFields fields, part.Flat
  | [], _ => nofun
  | (_, type) :: rest, proper => by
    rw [insideFields, List.forall_mem_append]
    exact ⟨flat_of_proper type proper.1, flat_of_fieldsProper rest proper.2⟩
end

mutual
theorem Phrase.proper : ∀ {tokens : List Token} {typeExpr : TypeExpr}, Phrase tokens typeExpr → typeExpr.Proper
  | _, _, .named _ => trivial
  | _, _, .generic _ args _ => ⟨List.cons_ne_nil _ _, args.proper⟩
  | _, _, .record _ inside _ => inside.proper
  | _, _, .union members plain => ⟨Nat.le_add_left 2 _, plain, members.proper⟩

theorem Several.proper {separator : TokenKind} : ∀ {tokens : List Token} {typeExprs : List TypeExpr},
    Several separator tokens typeExprs → AllProper typeExprs
  | _, _, .one read => ⟨read.proper, trivial⟩
  | _, _, .more read _ others => ⟨read.proper, others.proper⟩

theorem Fields.proper : ∀ {tokens : List Token} {fields : List (String × TypeExpr)}, Fields tokens fields →
    FieldsProper fields
  | _, _, .none => trivial
  | _, _, .last _ read => ⟨read.proper, trivial⟩
  | _, _, .more _ read _ others => ⟨read.proper, others.proper⟩
end

mutual
theorem Phrase.lexical : ∀ {tokens : List Token} {typeExpr : TypeExpr}, Phrase tokens typeExpr →
    (∀ token ∈ tokens, token.Writable) → typeExpr.Lexical
  | _, _, @Phrase.named token kind, writable => by
    have own := writable token (List.mem_singleton_self token)
    simp only [List.mem_cons, List.not_mem_nil, or_false] at kind
    rcases kind with name | sign | null
    · exact .inr (.inr (own.isIdentifier name))
    · exact .inl (own.isSpelled sign (by decide))
    · exact .inr (.inl (own.isSpelled null (by decide)))
  | _, _, .generic opened args _, writable => by
    simp only [List.forall_mem_cons, List.forall_mem_append] at writable
    obtain ⟨name, _, inside, _⟩ := writable
    exact ⟨name.isIdentifier (List.cons.inj opened).1, args.lexical inside⟩
  | _, _, .record _ fields _, writable => by
    simp only [List.forall_mem_cons, List.forall_mem_append] at writable
    exact fields.lexical writable.2.1
  | _, _, .union members _, writable => members.lexical writable

theorem Several.lexical {separator : TokenKind} : ∀ {tokens : List Token} {typeExprs : List TypeExpr},
    Several separator tokens typeExprs → (∀ token ∈ tokens, token.Writable) → AllLexical typeExprs
  | _, _, .one read, writable => ⟨read.lexical writable, trivial⟩
  | _, _, .more read _ others, writable => by
    simp only [List.forall_mem_cons, List.forall_mem_append] at writable
    exact ⟨read.lexical writable.1, others.lexical writable.2.2⟩

theorem Fields.lexical : ∀ {tokens : List Token} {fields : List (String × TypeExpr)}, Fields tokens fields →
    (∀ token ∈ tokens, token.Writable) → FieldsLexical fields
  | _, _, .none, _ => trivial
  | _, _, .last leads read, writable => by
    simp only [List.forall_mem_cons] at writable
    obtain ⟨name, _, inside⟩ := writable
    exact ⟨name.isIdentifier (List.cons.inj leads).1, read.lexical inside, trivial⟩
  | _, _, .more leads read _ others, writable => by
    simp only [List.forall_mem_cons, List.forall_mem_append] at writable
    obtain ⟨name, _, inside, _, later⟩ := writable
    exact ⟨name.isIdentifier (List.cons.inj leads).1, read.lexical inside, others.lexical later⟩
end

-- The unions in an annotation that has been read have no unions for members. Read from tokens
-- of a source it can be shown, put in a tag and read again.
theorem parse_faithful {cursor next : Cursor} {typeExpr : TypeExpr} {shorter : next.size < cursor.size}
    (accepted : parse cursor = .ok typeExpr next shorter) :
    (∀ part ∈ typeExpr.inside, part.Flat) ∧
      ∀ source file tokens, Token.tokenize source file = .ok tokens → cursor.rest ⊆ tokens → ∀ file',
        ∃ tokens' found next' shorter' closing, Token.tokenize ("\x7b" ++ typeExpr.text ++ "\x7d") file' = .ok tokens' ∧
          parse (Cursor.start tokens' file').advance = .ok found next' shorter' ∧ found.shape = typeExpr.shape ∧
          next'.rest = [closing] ∧ closing.word = TokenKind.closeCurly.word := by
  have obeys := parse_obeys (List.Subset.refl cursor.ahead)
  rw [accepted] at obeys
  obtain ⟨own, passed, phrase⟩ := obeys
  refine ⟨flat_of_proper typeExpr phrase.proper, fun source file tokens given among file' => ?_⟩
  refine parse_text typeExpr phrase.proper (phrase.lexical fun token inside => ?_) file'
  have listed : token ∈ cursor.rest := passed.rest ▸ List.mem_append_left _ inside
  exact Token.writable_of_tokenize given (among listed) (phrase.inner token inside)

-- `{@param x: list< int |null>|[a: ?,]}`, and the cursor behind the colon
def strewnTag : String := "\x7b@param x: list< int |null>|[a: ?,]\x7d"

def strewnTokens : List Token := (Token.tokenize strewnTag Token.defaultFile).toOption.getD []

def strewnCursor : Cursor := (Cursor.start strewnTokens Token.defaultFile).advance.advance.advance.advance

def strewn : TypeExpr := (parse strewnCursor).result.toOption.getD (named "" .nowhere)

theorem parse_faithful_strewn : Token.tokenize strewnTag Token.defaultFile = .ok strewnTokens ∧
    strewnCursor.rest ⊆ strewnTokens ∧ (∃ next shorter, parse strewnCursor = .ok strewn next shorter) ∧
    strewn.text = "list<int|null>|[a: ?]" ∧ (∀ part ∈ strewn.inside, part.Flat) ∧
    ∃ tokens found next shorter closing,
      Token.tokenize "\x7blist<int|null>|[a: ?]\x7d" Token.defaultFile = .ok tokens ∧
      parse (Cursor.start tokens Token.defaultFile).advance = .ok found next shorter ∧ found.shape = strewn.shape ∧
      next.rest = [closing] ∧ closing.word = TokenKind.closeCurly.word := by
  have given : Token.tokenize strewnTag Token.defaultFile = .ok strewnTokens := ok_of_isSome (by decide +kernel) _
  have accepted : ∃ next shorter, parse strewnCursor = .ok strewn next shorter := by
    have result : (parse strewnCursor).result = .ok strewn := ok_of_isSome (by decide +kernel) _
    cases outcome : parse strewnCursor with
    | ok typeExpr next shorter =>
      rw [outcome] at result
      cases result
      exact ⟨next, shorter, rfl⟩
    | error diagnostic stopped =>
      rw [outcome] at result
      cases result
  have among : strewnCursor.rest ⊆ strewnTokens := by decide +kernel
  have shown : strewn.text = "list<int|null>|[a: ?]" := by decide +kernel
  obtain ⟨next, shorter, read⟩ := accepted
  obtain ⟨flat, again⟩ := parse_faithful read
  have reread := again strewnTag Token.defaultFile strewnTokens given among Token.defaultFile
  rw [shown] at reread
  exact ⟨given, among, ⟨next, shorter, read⟩, shown, flat, reread⟩

end TypedTemplate.TypeExpr
