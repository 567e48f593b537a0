import TypedTemplate.Proofs.Expr.Phrase
import TypedTemplate.Proofs.Statement.Write
import TypedTemplate.Proofs.TypeExpr.Phrase

namespace TypedTemplate.Statement

open Cursor Parsed

inductive NameTailPhrase : List Token → String → Prop
  | none : NameTailPhrase [] ""
  | more {point part : Token} {tokens : List Token} {tail : String}
    (kinds : [point, part].map Token.kind = [.dot, .identifier]) (others : NameTailPhrase tokens tail) :
    NameTailPhrase (point :: part :: tokens) ("." ++ part.value ++ tail)

inductive NamePhrase : List Token → String → Prop
  | bare {first : Token} {tokens : List Token} {tail : String} (kind : first.kind = .identifier)
    (others : NameTailPhrase tokens tail) : NamePhrase (first :: tokens) (first.value ++ tail)
  | pointed {point first : Token} {tokens : List Token} {tail : String}
    (kinds : [point, first].map Token.kind = [.dot, .identifier]) (others : NameTailPhrase tokens tail) :
    NamePhrase (point :: first :: tokens) ("." ++ (first.value ++ tail))

inductive AttributesPhrase : List Token → Prop
  | none : AttributesPhrase []
  | more {name sign value : Token} {tokens : List Token}
    (kinds : [name, sign, value].map Token.kind = [.identifier, .assignment, .string])
    (others : AttributesPhrase tokens) : AttributesPhrase (name :: sign :: value :: tokens)

inductive ArgumentsPhrase : List Token → Prop
  | last {tokens : List Token} {argument : Expr} (read : argument.Phrase tokens) : ArgumentsPhrase tokens
  | more {comma : Token} {tokens tokens' : List Token} {argument : Expr} (read : argument.Phrase tokens)
    (goesOn : comma.kind = .comma) (others : ArgumentsPhrase tokens') : ArgumentsPhrase (tokens ++ comma :: tokens')

inductive DirectivesPhrase : List Token → List String → Prop
  | none : DirectivesPhrase [] []
  | plain {bar name : Token} {tokens : List Token} {rest : List String}
    (kinds : [bar, name].map Token.kind = [.pipe, .identifier]) (others : DirectivesPhrase tokens rest) :
    DirectivesPhrase (bar :: name :: tokens) (name.value :: rest)
  | given {bar name colon : Token} {tokens tokens' : List Token} {rest : List String}
    (kinds : [bar, name, colon].map Token.kind = [.pipe, .identifier, .colon]) (args : ArgumentsPhrase tokens)
    (others : DirectivesPhrase tokens' rest) :
    DirectivesPhrase (bar :: name :: colon :: (tokens ++ tokens')) (name.value :: rest)

def Announced (tokens : List Token) : Prop :=
  tokens = [] ∨ ∃ word : Token, tokens = [word] ∧ word.kind = .identifier ∧ word.value = "print"

-- The tokens of a statement, of a body, of a condition with its body, of what continues a
-- chain of conditions, and of a body that may be missing. What a keyword opens that keyword
-- closes.
mutual
inductive Phrase : List Token → Statement → Prop
  | text {token : Token} (kind : token.kind = .text) : Phrase [token] (text token.value token.span)
  | print {opening closing : Token} {word tokens tokens' : List Token} {expr : Expr} {directives : List String}
    (opened : opening.kind = .openCurly) (announced : Announced word) (read : expr.Phrase tokens)
    (directed : DirectivesPhrase tokens' directives) (closed : closing.kind = .closeCurly) :
    Phrase (opening :: (word ++ (tokens ++ (tokens' ++ [closing]))))
      (print expr directives ⟨opening.span.start, closing.span.stop⟩)
  | param {opening word name colon closing : Token} {tokens : List Token} {kind : ParamKind} {typeExpr : TypeExpr}
    (opened : [opening, word, name, colon].map Token.kind = [.openCurly, paramWord kind, .identifier, .colon])
    (read : typeExpr.Phrase tokens) (closed : closing.kind = .closeCurly) :
    Phrase (opening :: word :: name :: colon :: (tokens ++ [closing]))
      (param name.value kind typeExpr ⟨opening.span.start, closing.span.stop⟩)
  | letValue {opening word name colon closing : Token} {tokens : List Token} {value : Expr}
    (opened : [opening, word, name, colon].map Token.kind = [.openCurly, .letWord, .variableName, .colon])
    (read : value.Phrase tokens) (closed : closing.kind = .selfClose) :
    Phrase (opening :: word :: name :: colon :: (tokens ++ [closing]))
      (letValue name.value value ⟨opening.span.start, closing.span.stop⟩)
  | letBlock {opening word name closing slash again last : Token} {tokens tokens' : List Token} {body : List Statement}
    (opened : [opening, word, name].map Token.kind = [.openCurly, .letWord, .variableName])
    (attributes : AttributesPhrase tokens) (ended : closing.kind = .closeCurly) (inside : BodyPhrase tokens' body)
    (closed : [slash, again, last].map Token.kind = [.closeTagOpen, .letWord, .closeCurly]) :
    Phrase (opening :: word :: name :: (tokens ++ closing :: (tokens' ++ [slash, again, last])))
      (letBlock name.value body ⟨opening.span.start, last.span.stop⟩)
  | choose {opening word slash again last : Token} {tokens tokens' : List Token} {first : Branch (List Statement)}
    {rest : List (Branch (List Statement))} {otherwise : Option (List Statement)}
    (opened : [opening, word].map Token.kind = [.openCurly, .ifWord]) (read : BranchPhrase opening.span.start tokens first)
    (others : ChainPhrase tokens' rest otherwise)
    (closed : [slash, again, last].map Token.kind = [.closeTagOpen, .ifWord, .closeCurly]) :
    Phrase (opening :: word :: (tokens ++ (tokens' ++ [slash, again, last])))
      (choose (first :: rest) otherwise ⟨opening.span.start, last.span.stop⟩)
  | foreach {opening word name among closing slash again last : Token} {tokens tokens' tokens'' : List Token}
    {keyword : TokenKind} {iterable : Expr} {body : List Statement} {ifEmpty : Option (List Statement)}
    (loops : keyword ∈ [.foreachWord, .forWord])
    (opened : [opening, word, name, among].map Token.kind = [.openCurly, keyword, .variableName, .inWord])
    (read : iterable.Phrase tokens) (ended : closing.kind = .closeCurly) (inside : BodyPhrase tokens' body)
    (otherwise : OptionalPhrase .ifemptyWord tokens'' ifEmpty)
    (closed : [slash, again, last].map Token.kind = [.closeTagOpen, keyword, .closeCurly]) :
    Phrase
      (opening :: word :: name :: among :: (tokens ++ closing :: (tokens' ++ (tokens'' ++ [slash, again, last]))))
      (foreach name.value iterable body ifEmpty ⟨opening.span.start, last.span.stop⟩)

inductive BodyPhrase : List Token → List Statement → Prop
  | none : BodyPhrase [] []
  | more {tokens tokens' : List Token} {statement : Statement} {rest : List Statement} (read : Phrase tokens statement)
    (others : BodyPhrase tokens' rest) : BodyPhrase (tokens ++ tokens') (statement :: rest)

inductive BranchPhrase : Position → List Token → Branch (List Statement) → Prop
  | guarded {start : Position} {closing : Token} {tokens tokens' : List Token} {condition : Expr} {body : List Statement}
    (read : condition.Phrase tokens) (closed : closing.kind = .closeCurly) (inside : BodyPhrase tokens' body) :
    BranchPhrase start (tokens ++ closing :: tokens')
      ⟨condition, body, ⟨start, Token.stopAfter closing.span.stop tokens'⟩⟩

inductive ChainPhrase : List Token → List (Branch (List Statement)) → Option (List Statement) → Prop
  | last {tokens : List Token} {otherwise : Option (List Statement)} (read : OptionalPhrase .elseWord tokens otherwise) :
    ChainPhrase tokens [] otherwise
  | more {opening word : Token} {tokens tokens' : List Token} {branch : Branch (List Statement)}
    {rest : List (Branch (List Statement))} {otherwise : Option (List Statement)}
    (opened : [opening, word].map Token.kind = [.openCurly, .elseifWord])
    (read : BranchPhrase opening.span.start tokens branch) (others : ChainPhrase tokens' rest otherwise) :
    ChainPhrase (opening :: word :: (tokens ++ tokens')) (branch :: rest) otherwise

inductive OptionalPhrase : TokenKind → List Token → Option (List Statement) → Prop
  | none {keyword : TokenKind} : OptionalPhrase keyword [] none
  | some {keyword : TokenKind} {opening word closing : Token} {tokens : List Token} {body : List Statement}
    (opened : [opening, word, closing].map Token.kind = [.openCurly, keyword, .closeCurly])
    (inside : BodyPhrase tokens body) : OptionalPhrase keyword (opening :: word :: closing :: tokens) (some body)
end

theorem paramWord_inner (kind : ParamKind) : paramWord kind ≠ .eof := by cases kind <;> decide

theorem NameTailPhrase.inner {tokens : List Token} {tail : String} (read : NameTailPhrase tokens tail) :
    Token.Inner tokens := by
  induction read with
  | none => exact Token.inner_nil
  | more kinds _ ih => simpa [ih] using Token.inner_of_kinds kinds (by decide)

theorem NamePhrase.inner {tokens : List Token} {name : String} (read : NamePhrase tokens name) : Token.Inner tokens := by
  cases read with
  | bare kind others => simp [kind, others.inner]
  | pointed kinds others => simpa [others.inner] using Token.inner_of_kinds kinds (by decide)

theorem AttributesPhrase.inner {tokens : List Token} (read : AttributesPhrase tokens) : Token.Inner tokens := by
  induction read with
  | none => exact Token.inner_nil
  | more kinds _ ih => simpa [ih] using Token.inner_of_kinds kinds (by decide)

theorem ArgumentsPhrase.inner {tokens : List Token} (read : ArgumentsPhrase tokens) : Token.Inner tokens := by
  induction read with
  | last read => exact read.inner
  | more read goesOn _ ih => simp [read.inner, goesOn, ih]

theorem DirectivesPhrase.inner {tokens : List Token} {directives : List String}
    (read : DirectivesPhrase tokens directives) : Token.Inner tokens := by
  induction read with
  | none => exact Token.inner_nil
  | plain kinds _ ih => simpa [ih] using Token.inner_of_kinds kinds (by decide)
  | given kinds args _ ih => simpa [args.inner, ih] using Token.inner_of_kinds kinds (by decide)

theorem Announced.inner {tokens : List Token} (announced : Announced tokens) : Token.Inner tokens := by
  obtain rfl | ⟨word, rfl, kind, _⟩ := announced
  · exact Token.inner_nil
  · simp [kind]

mutual
theorem Phrase.inner : ∀ {tokens : List Token} {statement : Statement}, Phrase tokens statement → Token.Inner tokens
  | _, _, .text kind => by simp [kind]
  | _, _, .print opened announced read directed closed => by
    simp [opened, announced.inner, read.inner, directed.inner, closed]
  | _, _, .param opened read closed => by
    simpa [read.inner, closed] using Token.inner_of_kinds opened (by simp [(paramWord_inner _).symm])
  | _, _, .letValue opened read closed => by
    simpa [read.inner, closed] using Token.inner_of_kinds opened (by decide)
  | _, _, .letBlock opened attributes ended inside closed => by
    have closing := Token.inner_of_kinds closed (by decide)
    simpa [attributes.inner, ended, inside.inner, closing] using Token.inner_of_kinds opened (by decide)
  | _, _, .choose opened read others closed => by
    have closing := Token.inner_of_kinds closed (by decide)
    simpa [read.inner, others.inner, closing] using Token.inner_of_kinds opened (by decide)
  | _, _, .foreach loops opened read ended inside otherwise closed => by
    have inner := ne_of_mem_of_not_mem loops (by decide : TokenKind.eof ∉ _)
    have closing := Token.inner_of_kinds closed (by simp [inner.symm])
    simpa [read.inner, ended, inside.inner, otherwise.inner (by decide), closing] using
      Token.inner_of_kinds opened (by simp [inner.symm])

theorem BodyPhrase.inner : ∀ {tokens : List Token} {body : List Statement}, BodyPhrase tokens body → Token.Inner tokens
  | _, _, .none => Token.inner_nil
  | _, _, .more read others => by simp [read.inner, others.inner]

theorem BranchPhrase.inner {start : Position} : ∀ {tokens : List Token} {branch : Branch (List Statement)},
    BranchPhrase start tokens branch → Token.Inner tokens
  | _, _, .guarded read closed inside => by simp [read.inner, closed, inside.inner]

theorem ChainPhrase.inner : ∀ {tokens : List Token} {branches : List (Branch (List Statement))}
    {otherwise : Option (List Statement)}, ChainPhrase tokens branches otherwise → Token.Inner tokens
  | _, _, _, .last read => read.inner (by decide)
  | _, _, _, .more opened read others => by
    simpa [read.inner, others.inner] using Token.inner_of_kinds opened (by decide)

theorem OptionalPhrase.inner {keyword : TokenKind} : ∀ {tokens : List Token} {body : Option (List Statement)},
    OptionalPhrase keyword tokens body → keyword ≠ .eof → Token.Inner tokens
  | _, _, .none, _ => Token.inner_nil
  | _, _, .some opened inside, inner => by
    simpa [inside.inner] using Token.inner_of_kinds opened (by simp [inner.symm])
end

theorem paramWord_paramKind {kind : TokenKind} (declares : kind ∈ [.param, .optionalParam, .inject, .optionalInject]) :
    paramWord (paramKind kind) = kind := by
  revert kind
  decide

variable {all : List Token}

theorem parseNameTail_obeys {cursor : Cursor} (within : cursor.ahead ⊆ all) :
    (parseNameTail cursor).Obeys all cursor NameTailPhrase := by
  rw [parseNameTail]
  split
  · apply Obeys.loosen
    refine (consume_obeys within _).andThen ?_
    rintro point next - _ passed ⟨rfl, pointed⟩
    refine (consume_obeys passed.within _).after ?_
    rintro part later - _ passed ⟨rfl, named⟩
    refine (parseNameTail_obeys passed.within).upTo ?_
    rintro tail done - tokens passed read
    refine obeys_ok passed.within ?_
    rw [List.append_nil]
    exact .more (by simp [pointed, named]) read
  · exact obeys_ok within .none
termination_by cursor.size

theorem parseBareName_obeys {cursor : Cursor} (within : cursor.ahead ⊆ all) :
    (parseBareName cursor).Obeys all cursor fun tokens name => ∃ first others tail,
      tokens = first :: others ∧ name = first.value ++ tail ∧ first.kind = .identifier ∧ NameTailPhrase others tail := by
  rw [parseBareName]
  refine (consume_obeys within _).andThen ?_
  rintro first next - _ passed ⟨rfl, named⟩
  refine (parseNameTail_obeys passed.within).upTo ?_
  rintro tail done - tokens passed read
  refine obeys_ok passed.within ⟨first, tokens, tail, ?_, rfl, named, read⟩
  rw [List.append_nil, List.singleton_append]

theorem parseName_obeys {cursor : Cursor} (within : cursor.ahead ⊆ all) :
    (parseName cursor).Obeys all cursor NamePhrase := by
  rw [parseName]
  split
  · refine (consume_obeys within _).andThen ?_
    rintro point next - _ passed ⟨rfl, pointed⟩
    refine (parseBareName_obeys passed.within).after ?_
    rintro _ done - _ passed ⟨first, tokens, tail, rfl, rfl, named, read⟩
    refine obeys_ok passed.within ?_
    rw [List.append_nil]
    exact .pointed (by simp [pointed, named]) read
  · refine (parseBareName_obeys within).imp ?_
    rintro _ _ ⟨first, tokens, tail, rfl, rfl, named, read⟩
    exact .bare named read

theorem parseAttributes_obeys {cursor : Cursor} (within : cursor.ahead ⊆ all) :
    (parseAttributes cursor).Obeys all cursor fun tokens _ => AttributesPhrase tokens := by
  rw [parseAttributes]
  split
  · apply Obeys.loosen
    refine (consume_obeys within _).andThen ?_
    rintro name afterName - _ passed ⟨rfl, named⟩
    refine (consume_obeys passed.within _).after ?_
    rintro sign afterSign - _ passed ⟨rfl, assigned⟩
    refine (consume_obeys passed.within _).after ?_
    rintro value next - _ passed ⟨rfl, quoted⟩
    refine (parseAttributes_obeys passed.within).upTo ?_
    rintro _ done - tokens passed read
    refine obeys_ok passed.within ?_
    rw [List.append_nil]
    exact .more (by simp [named, assigned, quoted]) read
  · exact obeys_ok within .none
termination_by cursor.size

theorem parseClosing_obeys {cursor : Cursor} (keyword : TokenKind) (within : cursor.ahead ⊆ all) :
    (parseClosing keyword cursor).Obeys all cursor fun tokens _ => ∃ slash again last : Token,
      tokens = [slash, again, last] ∧ tokens.map Token.kind = [.closeTagOpen, keyword, .closeCurly] := by
  refine (consumeFor_obeys within _ _).andThen ?_
  rintro slash word - _ passed ⟨rfl, closes⟩
  refine (consume_obeys passed.within _).after ?_
  rintro again last - _ passed ⟨rfl, same⟩
  refine (consume_obeys passed.within _).after ?_
  rintro last done - _ passed ⟨rfl, ends⟩
  exact obeys_ok passed.within ⟨slash, again, last, rfl, by simp [closes, same, ends]⟩

theorem parseParam_obeys {cursor : Cursor} (within : cursor.ahead ⊆ all) (opens : cursor.kind = .openCurly)
    (declares : cursor.peek 1 ∈ [.param, .optionalParam, .inject, .optionalInject]) :
    (parseParam cursor).Obeys all cursor Phrase := by
  rw [parseParam]
  refine (take_obeys_of_kind within opens).andThen ?_
  rintro opening keyword - _ passed ⟨rfl, opens⟩
  rw [passed.peek] at declares
  refine (take_obeys_of_kind passed.within rfl).after ?_
  rintro declared nameStart - _ passed ⟨rfl, declared'⟩
  refine (consumeFor_obeys passed.within _ _).after ?_
  rintro name afterName - _ passed ⟨rfl, named⟩
  refine (consume_obeys passed.within _).after ?_
  rintro colon typeStart - _ passed ⟨rfl, divided⟩
  refine (TypeExpr.parse_obeys passed.within).after ?_
  rintro typeExpr last - tokens passed read
  refine (consume_obeys passed.within _).after ?_
  rintro closing done - _ passed ⟨rfl, closed⟩
  rw [passed.stops]
  refine obeys_ok passed.within (.param ?_ read closed)
  simp [opens, named, divided, declared', paramWord_paramKind declares]

theorem parseDirectiveArguments_obeys {cursor : Cursor} (within : cursor.ahead ⊆ all) {before : List Token}
    {argument : Expr} (read : argument.Phrase before) :
    (parseDirectiveArguments cursor).Obeys all cursor fun tokens _ => ArgumentsPhrase (before ++ tokens) := by
  rw [parseDirectiveArguments]
  split
  · apply Obeys.loosen
    refine (consume_obeys within _).andThen ?_
    rintro comma next - _ passed ⟨rfl, goesOn⟩
    refine (Expr.parse_obeys .lowest passed.within).after ?_
    rintro argument' later - tokens passed read'
    refine (parseDirectiveArguments_obeys passed.within read').upTo ?_
    rintro _ done - more passed args
    refine obeys_ok passed.within ?_
    rw [List.append_nil]
    exact .more read goesOn args
  · refine obeys_ok within ?_
    rw [List.append_nil]
    exact .last read
termination_by cursor.size

theorem parseDirectives_obeys {cursor : Cursor} (within : cursor.ahead ⊆ all) :
    (parseDirectives cursor).Obeys all cursor DirectivesPhrase := by
  rw [parseDirectives]
  split
  · apply Obeys.loosen
    refine (consume_obeys within _).andThen ?_
    rintro bar nameStart - _ passed ⟨rfl, divides⟩
    refine (consumeFor_obeys passed.within _ _).after ?_
    rintro name afterName - _ passed ⟨rfl, named⟩
    split
    · refine (consume_obeys passed.within _).after ?_
      rintro colon argumentStart - _ passed ⟨rfl, given⟩
      refine (Expr.parse_obeys .lowest passed.within).after ?_
      rintro argument more - tokens passed read
      refine (parseDirectiveArguments_obeys passed.within read).upTo ?_
      rintro _ next - tokens' passed args
      refine (parseDirectives_obeys passed.within).upTo ?_
      rintro rest done - others passed read'
      have kinds : [bar, name, colon].map Token.kind = [.pipe, .identifier, .colon] := by simp [divides, named, given]
      refine obeys_ok passed.within ?_
      simpa using DirectivesPhrase.given kinds args read'
    · refine (parseDirectives_obeys passed.within).upTo ?_
      rintro rest done - others passed read
      refine obeys_ok passed.within ?_
      rw [List.append_nil]
      exact .plain (by simp [divides, named]) read
  · exact obeys_ok within .none
termination_by cursor.size

theorem parsePrinted_obeys {cursor : Cursor} (within : cursor.ahead ⊆ all) {opening : Token} {word : List Token}
    (opened : opening.kind = .openCurly) (announced : Announced word) :
    (parsePrinted opening cursor).Obeys all cursor fun tokens => Phrase (opening :: (word ++ tokens)) := by
  refine (Expr.parse_obeys .lowest within).andThen ?_
  rintro expr afterExpr - tokens passed read
  refine (parseDirectives_obeys passed.within).upTo ?_
  rintro directives last - tokens' passed directed
  refine (consume_obeys passed.within _).after ?_
  rintro closing done - _ passed ⟨rfl, closed⟩
  rw [passed.stops]
  exact obeys_ok passed.within (.print opened announced read directed closed)

theorem parsePrint_obeys {cursor : Cursor} (within : cursor.ahead ⊆ all) (opens : cursor.kind = .openCurly) :
    (parsePrint cursor).Obeys all cursor Phrase := by
  refine (take_obeys_of_kind within opens).andThen ?_
  rintro opening next - _ passed ⟨rfl, opened⟩
  split
  · rename_i spelled
    refine (consume_obeys passed.within _).after ?_
    rintro word exprStart - _ passed ⟨rfl, named⟩
    rw [passed.current] at spelled
    refine (parsePrinted_obeys passed.within opened (.inr ⟨word, rfl, named, spelled.2.1⟩)).after ?_
    rintro statement done - tokens passed read
    exact obeys_ok passed.within (by rwa [List.append_nil])
  · refine (parsePrinted_obeys passed.within opened (.inl rfl)).after ?_
    rintro statement done - tokens passed read
    exact obeys_ok passed.within (by rwa [List.append_nil])

-- Each way to go on is settled by the two tokens ahead, so that what is taken without a
-- look is known to be there.
mutual
theorem parse_obeys {cursor : Cursor} (within : cursor.ahead ⊆ all) : (parse cursor).Obeys all cursor Phrase := by
  rw [parse]
  split
  · rename_i kind
    refine (take_obeys_of_kind within kind).andThen ?_
    rintro token next - _ passed ⟨rfl, kind⟩
    exact obeys_ok passed.within (.text kind)
  · rename_i opens
    split
    · rename_i word
      exact parseParam_obeys within opens (by simp [word])
    · rename_i word
      exact parseParam_obeys within opens (by simp [word])
    · rename_i word
      exact parseParam_obeys within opens (by simp [word])
    · rename_i word
      exact parseParam_obeys within opens (by simp [word])
    · rename_i word
      exact parseLet_obeys within opens word
    · rename_i word
      exact parseIf_obeys within opens word
    · rename_i word
      exact parseForeach_obeys within opens (by simp [word])
    · rename_i word
      exact parseForeach_obeys within opens (by simp [word])
    · exact parsePrint_obeys within opens
  · exact obeys_error within rfl
termination_by 5 * cursor.size + 1

theorem parseBlock_obeys {cursor : Cursor} (within : cursor.ahead ⊆ all) :
    (parseBlock cursor).Obeys all cursor BodyPhrase := by
  rw [parseBlock]
  split
  · exact obeys_ok within .none
  split
  · exact obeys_error within rfl
  · apply Obeys.loosen
    refine (parse_obeys within).andThen ?_
    rintro statement next - tokens passed read
    refine (parseBlock_obeys passed.within).upTo ?_
    rintro rest done - more passed others
    refine obeys_ok passed.within ?_
    rw [List.append_nil]
    exact .more read others
termination_by 5 * cursor.size + 2

theorem parseLet_obeys {cursor : Cursor} (within : cursor.ahead ⊆ all) (opens : cursor.kind = .openCurly)
    (asks : cursor.peek 1 = .letWord) : (parseLet cursor).Obeys all cursor Phrase := by
  rw [parseLet]
  refine (take_obeys_of_kind within opens).andThen ?_
  rintro opening keyword - _ passed ⟨rfl, opens⟩
  refine (take_obeys_of_kind passed.within (passed.peek.symm.trans asks)).after ?_
  rintro word nameStart - _ passed ⟨rfl, asks⟩
  refine (consumeFor_obeys passed.within _ _).after ?_
  rintro name afterName - _ passed ⟨rfl, named⟩
  split
  · refine (consume_obeys passed.within _).after ?_
    rintro colon valueStart - _ passed ⟨rfl, divided⟩
    refine (Expr.parse_obeys .lowest passed.within).after ?_
    rintro value last - tokens passed read
    refine (consume_obeys passed.within _).after ?_
    rintro closing done - _ passed ⟨rfl, closed⟩
    rw [passed.stops]
    exact obeys_ok passed.within (.letValue (by simp [opens, asks, named, divided]) read closed)
  · refine (parseAttributes_obeys passed.within).upTo ?_
    rintro _ last - tokens passed attributes
    refine (consume_obeys passed.within _).after ?_
    rintro closing bodyStart - _ passed ⟨rfl, ended⟩
    refine (parseBlock_obeys passed.within).upTo ?_
    rintro body next - tokens' passed inside
    refine (parseClosing_obeys _ passed.within).after ?_
    rintro _ done - _ passed ⟨slash, again, last, rfl, closed⟩
    rw [passed.stop]
    exact obeys_ok passed.within (.letBlock (by simp [opens, asks, named]) attributes ended inside closed)
termination_by 5 * cursor.size

theorem parseIf_obeys {cursor : Cursor} (within : cursor.ahead ⊆ all) (opens : cursor.kind = .openCurly)
    (asks : cursor.peek 1 = .ifWord) : (parseIf cursor).Obeys all cursor Phrase := by
  rw [parseIf]
  refine (take_obeys_of_kind within opens).andThen ?_
  rintro opening keyword - _ passed ⟨rfl, opens⟩
  refine (take_obeys_of_kind passed.within (passed.peek.symm.trans asks)).after ?_
  rintro word conditionStart - _ passed ⟨rfl, asks⟩
  refine (parseBranch_obeys passed.within).after ?_
  rintro first next - tokens passed read
  refine (parseBranches_obeys passed.within).upTo ?_
  rintro ⟨rest, otherwise⟩ closing - tokens' passed others
  refine (parseClosing_obeys _ passed.within).after ?_
  rintro _ done - _ passed ⟨slash, again, last, rfl, closed⟩
  rw [passed.stop]
  exact obeys_ok passed.within (.choose (by simp [opens, asks]) read others closed)
termination_by 5 * cursor.size

theorem parseBranch_obeys {cursor : Cursor} {start : Position} (within : cursor.ahead ⊆ all) :
    (parseBranch start cursor).Obeys all cursor (BranchPhrase start) := by
  rw [parseBranch]
  refine (Expr.parse_obeys .lowest within).andThen ?_
  rintro condition last - tokens passed read
  refine (consume_obeys passed.within _).after ?_
  rintro closing bodyStart - _ passed ⟨rfl, closed⟩
  refine (parseBlock_obeys passed.within).upTo ?_
  rintro body done - tokens' passed' inside
  refine obeys_ok passed'.within ?_
  rw [passed'.stop, passed.stops, List.append_nil]
  exact .guarded read closed inside
termination_by 5 * cursor.size

theorem parseBranches_obeys {cursor : Cursor} (within : cursor.ahead ⊆ all) :
    (parseBranches cursor).Obeys all cursor fun tokens others => ChainPhrase tokens others.1 others.2 := by
  rw [parseBranches]
  split
  · rename_i ahead
    apply Obeys.loosen
    refine (take_obeys_of_kind within ahead.1).andThen ?_
    rintro opening keyword - _ passed ⟨rfl, opens⟩
    refine (take_obeys_of_kind passed.within (passed.peek.symm.trans ahead.2)).after ?_
    rintro word conditionStart - _ passed ⟨rfl, asks⟩
    refine (parseBranch_obeys passed.within).after ?_
    rintro branch next - tokens passed read
    refine (parseBranches_obeys passed.within).upTo ?_
    rintro ⟨rest, otherwise⟩ done - tokens' passed others
    refine obeys_ok passed.within ?_
    show ChainPhrase (opening :: word :: (tokens ++ (tokens' ++ []))) _ _
    rw [List.append_nil]
    exact .more (by simp [opens, asks]) read others
  split
  · rename_i ahead
    apply Obeys.loosen
    refine (take_obeys_of_kind within ahead.1).andThen ?_
    rintro opening keyword - _ passed ⟨rfl, opens⟩
    refine (take_obeys_of_kind passed.within (passed.peek.symm.trans ahead.2)).after ?_
    rintro word last - _ passed ⟨rfl, asks⟩
    refine (consume_obeys passed.within _).after ?_
    rintro closing bodyStart - _ passed ⟨rfl, closed⟩
    refine (parseBlock_obeys passed.within).upTo ?_
    rintro body done - tokens passed inside
    refine obeys_ok passed.within ?_
    rw [List.append_nil]
    exact .last (.some (by simp [opens, asks, closed]) inside)
  · exact obeys_ok within (.last .none)
termination_by 5 * cursor.size

theorem parseForeach_obeys {cursor : Cursor} (within : cursor.ahead ⊆ all) (opens : cursor.kind = .openCurly)
    (loops : cursor.peek 1 ∈ [.foreachWord, .forWord]) : (parseForeach cursor).Obeys all cursor Phrase := by
  rw [parseForeach]
  refine (take_obeys_of_kind within opens).andThen ?_
  rintro opening keyword - _ passed ⟨rfl, opens⟩
  refine (take_obeys_of_kind passed.within passed.peek.symm).after ?_
  rintro word varStart - _ passed ⟨rfl, asks⟩
  refine (consumeFor_obeys passed.within _ _).after ?_
  rintro name afterName - _ passed ⟨rfl, named⟩
  refine (consume_obeys passed.within _).after ?_
  rintro among iterableStart - _ passed ⟨rfl, joined⟩
  refine (Expr.parse_obeys .lowest passed.within).after ?_
  rintro iterable last - tokens passed read
  refine (consume_obeys passed.within _).after ?_
  rintro closing bodyStart - _ passed ⟨rfl, ended⟩
  refine (parseBlock_obeys passed.within).upTo ?_
  rintro body next - tokens' passed inside
  refine (parseIfEmpty_obeys passed.within).upTo ?_
  rintro ifEmpty closing - tokens'' passed otherwise
  refine (parseClosing_obeys _ passed.within).after ?_
  rintro _ done - _ passed ⟨slash, again, last, rfl, closed⟩
  rw [passed.stop]
  exact obeys_ok passed.within
    (.foreach (asks ▸ loops) (by simp [opens, named, joined]) read ended inside otherwise closed)
termination_by 5 * cursor.size

theorem parseIfEmpty_obeys {cursor : Cursor} (within : cursor.ahead ⊆ all) :
    (parseIfEmpty cursor).Obeys all cursor (OptionalPhrase .ifemptyWord) := by
  rw [parseIfEmpty]
  split
  · rename_i ahead
    apply Obeys.loosen
    refine (take_obeys_of_kind within ahead.1).andThen ?_
    rintro opening keyword - _ passed ⟨rfl, opens⟩
    refine (take_obeys_of_kind passed.within (passed.peek.symm.trans ahead.2)).after ?_
    rintro word last - _ passed ⟨rfl, asks⟩
    refine (consume_obeys passed.within _).after ?_
    rintro closing bodyStart - _ passed ⟨rfl, closed⟩
    refine (parseBlock_obeys passed.within).upTo ?_
    rintro body done - tokens passed inside
    refine obeys_ok passed.within ?_
    rw [List.append_nil]
    exact .some (by simp [opens, asks, closed]) inside
  · exact obeys_ok within .none
termination_by 5 * cursor.size
end

end TypedTemplate.Statement
