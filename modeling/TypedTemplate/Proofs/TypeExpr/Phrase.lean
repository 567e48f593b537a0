import TypedTemplate.Proofs.Token.Passage
import TypedTemplate.Proofs.TypeExpr.Members

namespace TypedTemplate.TypeExpr

open Cursor Parsed

-- The tokens of an annotation, and of several with a separator between them. A comma may
-- stand behind the last field of a record.
mutual
inductive Phrase : List Token → TypeExpr → Prop
  | named {token : Token} (kind : token.kind ∈ [.identifier, .question, .nullWord]) :
    Phrase [token] (named token.value token.span.start)
  | generic {name opening closing : Token} {tokens : List Token} {first : TypeExpr} {rest : List TypeExpr}
    (opened : [name, opening].map Token.kind = [.identifier, .less]) (args : Several .comma tokens (first :: rest))
    (closed : closing.kind = .greater) :
    Phrase (name :: opening :: (tokens ++ [closing])) (generic name.value (first :: rest) name.span.start)
  | record {opening closing : Token} {tokens : List Token} {fields : List (String × TypeExpr)}
    (opened : opening.kind = .openBracket) (inside : Fields tokens fields) (closed : closing.kind = .closeBracket) :
    Phrase (opening :: (tokens ++ [closing])) (record fields opening.span.start)
  | union {tokens : List Token} {first second : TypeExpr} {rest : List TypeExpr}
    (members : Several .pipe tokens (first :: second :: rest))
    (plain : ∀ member ∈ first :: second :: rest, member.isUnion = false) :
    Phrase tokens (union (first :: second :: rest))

inductive Several : TokenKind → List Token → List TypeExpr → Prop
  | one {separator : TokenKind} {tokens : List Token} {typeExpr : TypeExpr} (read : Phrase tokens typeExpr) :
    Several separator tokens [typeExpr]
  | more {separator : TokenKind} {between : Token} {tokens tokens' : List Token} {typeExpr : TypeExpr}
    {rest : List TypeExpr} (read : Phrase tokens typeExpr) (goesOn : between.kind = separator)
    (others : Several separator tokens' rest) : Several separator (tokens ++ between :: tokens') (typeExpr :: rest)

inductive Fields : List Token → List (String × TypeExpr) → Prop
  | none : Fields [] []
  | last {name colon : Token} {tokens : List Token} {type : TypeExpr}
    (named : [name, colon].map Token.kind = [.identifier, .colon]) (read : Phrase tokens type) :
    Fields (name :: colon :: tokens) [(name.value, type)]
  | more {name colon comma : Token} {tokens tokens' : List Token} {type : TypeExpr} {rest : List (String × TypeExpr)}
    (named : [name, colon].map Token.kind = [.identifier, .colon]) (read : Phrase tokens type)
    (goesOn : comma.kind = .comma) (others : Fields tokens' rest) :
    Fields (name :: colon :: (tokens ++ comma :: tokens')) ((name.value, type) :: rest)
end

mutual
theorem Phrase.inner : ∀ {tokens : List Token} {typeExpr : TypeExpr}, Phrase tokens typeExpr → Token.Inner tokens
  | _, _, .named kind => by simp [ne_of_mem_of_not_mem kind (by decide : TokenKind.eof ∉ _)]
  | _, _, .generic opened args closed => by
    simpa [args.inner, closed] using Token.inner_of_kinds opened (by decide)
  | _, _, .record opened inside closed => by simp [opened, inside.inner, closed]
  | _, _, .union members _ => members.inner (by decide)

theorem Several.inner {separator : TokenKind} : ∀ {tokens : List Token} {typeExprs : List TypeExpr},
    Several separator tokens typeExprs → separator ≠ .eof → Token.Inner tokens
  | _, _, .one read, _ => read.inner
  | _, _, .more read goesOn others, inner => by simp [read.inner, goesOn, inner, others.inner inner]

theorem Fields.inner : ∀ {tokens : List Token} {fields : List (String × TypeExpr)}, Fields tokens fields → Token.Inner tokens
  | _, _, .none => Token.inner_nil
  | _, _, .last leads read => by simpa [read.inner] using Token.inner_of_kinds leads (by decide)
  | _, _, .more leads read goesOn others => by
    simpa [read.inner, goesOn, others.inner] using Token.inner_of_kinds leads (by decide)
end

theorem phrase_ofMembers {tokens : List Token} {first : TypeExpr} {rest : List TypeExpr}
    (read : Several .pipe tokens (first :: rest)) (plain : ∀ member ∈ first :: rest, member.isUnion = false) :
    Phrase tokens (ofMembers first rest) := by
  cases rest with
  | nil =>
    cases read with
    | one read => exact read
    | more read goesOn others => cases others
  | cons second rest => exact .union read plain

variable {all : List Token}

-- Reading an annotation passes over its tokens. What comes after the first of several is
-- read with the first at hand.
mutual
theorem parse_obeys {cursor : Cursor} (within : cursor.ahead ⊆ all) : (parse cursor).Obeys all cursor Phrase := by
  rw [parse_eq]
  refine (parseMember_obeys within).andThen ?_
  rintro first next - tokens passed ⟨read, plain⟩
  refine (parseMembers_obeys passed.within read).upTo ?_
  rintro rest done - more passed' ⟨members, plain'⟩
  refine obeys_ok passed'.within ?_
  rw [List.append_nil]
  exact phrase_ofMembers members (List.forall_mem_cons.mpr ⟨plain, plain'⟩)
termination_by 3 * cursor.size + 1

theorem parseMember_obeys {cursor : Cursor} (within : cursor.ahead ⊆ all) :
    (parseMember cursor).Obeys all cursor fun tokens typeExpr => Phrase tokens typeExpr ∧ typeExpr.isUnion = false := by
  rw [parseMember]
  refine (take_obeys within).andThen ?_
  rintro token next shorter _ passed rfl
  split
  · rename_i kind
    split
    · refine (consume_obeys passed.within _).after ?_
      rintro opening inside - _ passed ⟨rfl, opens⟩
      refine (parse_obeys passed.within).after ?_
      rintro first later - tokens passed read
      refine (parseArguments_obeys passed.within read).upTo ?_
      rintro rest last - more passed args
      refine (consumeFor_obeys passed.within _ _).after ?_
      rintro closing done - _ passed ⟨rfl, closed⟩
      have opened : [token, opening].map Token.kind = [.identifier, .less] := by simp [kind, opens]
      refine obeys_ok passed.within ⟨?_, rfl⟩
      show Phrase (token :: opening :: (tokens ++ (more ++ [closing]))) _
      rw [← List.append_assoc]
      exact .generic opened args closed
    · exact obeys_ok passed.within ⟨.named (by simp [kind]), rfl⟩
  · rename_i kind
    exact obeys_ok passed.within ⟨.named (by simp [kind]), rfl⟩
  · rename_i kind
    exact obeys_ok passed.within ⟨.named (by simp [kind]), rfl⟩
  · rename_i kind
    refine (parseFields_obeys passed.within).upTo ?_
    rintro fields last - tokens passed inside
    refine (consume_obeys passed.within _).after ?_
    rintro closing done - _ passed ⟨rfl, closed⟩
    exact obeys_ok passed.within ⟨.record kind inside closed, rfl⟩
  · exact obeys_error within rfl
termination_by 3 * cursor.size

theorem parseMembers_obeys {cursor : Cursor} (within : cursor.ahead ⊆ all) {before : List Token} {first : TypeExpr}
    (read : Phrase before first) : (parseMembers cursor).Obeys all cursor fun tokens rest =>
      Several .pipe (before ++ tokens) (first :: rest) ∧ ∀ member ∈ rest, member.isUnion = false := by
  rw [parseMembers]
  split
  · apply Obeys.loosen
    refine (consume_obeys within _).andThen ?_
    rintro bar next - _ passed ⟨rfl, goesOn⟩
    refine (parseMember_obeys passed.within).after ?_
    rintro member later - tokens passed ⟨read', plain⟩
    refine (parseMembers_obeys passed.within read').upTo ?_
    rintro rest done - more passed ⟨members, plain'⟩
    refine obeys_ok passed.within ⟨?_, List.forall_mem_cons.mpr ⟨plain, plain'⟩⟩
    rw [List.append_nil]
    exact .more read goesOn members
  · exact obeys_ok within ⟨by rw [List.append_nil]; exact .one read, nofun⟩
termination_by 3 * cursor.size

theorem parseArguments_obeys {cursor : Cursor} (within : cursor.ahead ⊆ all) {before : List Token} {first : TypeExpr}
    (read : Phrase before first) : (parseArguments cursor).Obeys all cursor fun tokens rest =>
      Several .comma (before ++ tokens) (first :: rest) := by
  rw [parseArguments]
  split
  · apply Obeys.loosen
    refine (consume_obeys within _).andThen ?_
    rintro comma next - _ passed ⟨rfl, goesOn⟩
    refine (parse_obeys passed.within).after ?_
    rintro argument later - tokens passed read'
    refine (parseArguments_obeys passed.within read').upTo ?_
    rintro rest done - more passed args
    refine obeys_ok passed.within ?_
    rw [List.append_nil]
    exact .more read goesOn args
  · refine obeys_ok within ?_
    rw [List.append_nil]
    exact .one read
termination_by 3 * cursor.size

theorem parseFields_obeys {cursor : Cursor} (within : cursor.ahead ⊆ all) :
    (parseFields cursor).Obeys all cursor Fields := by
  rw [parseFields]
  split
  · exact obeys_ok within .none
  · apply Obeys.loosen
    refine (consumeFor_obeys within _ _).andThen ?_
    rintro name afterName - _ passed ⟨rfl, named⟩
    refine (consume_obeys passed.within _).after ?_
    rintro colon typeStart - _ passed ⟨rfl, divides⟩
    refine (parse_obeys passed.within).after ?_
    rintro type later - tokens passed read
    have named : [name, colon].map Token.kind = [.identifier, .colon] := by simp [named, divides]
    split
    · refine (consume_obeys passed.within _).after ?_
      rintro comma more - _ passed ⟨rfl, goesOn⟩
      refine (parseFields_obeys passed.within).upTo ?_
      rintro rest done - others passed read'
      refine obeys_ok passed.within ?_
      rw [List.append_nil]
      exact .more named read goesOn read'
    · refine obeys_ok passed.within ?_
      rw [List.append_nil]
      exact .last named read
termination_by 3 * cursor.size
end

end TypedTemplate.TypeExpr
