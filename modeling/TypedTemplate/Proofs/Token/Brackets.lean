import TypedTemplate.Proofs.Token.Scan

namespace TypedTemplate

open Source (byteLength slice)

def TokenKind.inner (kind : TokenKind) : Bool :=
  kind != .text && kind != .eof && !kind.opensTag && !kind.closesTag

namespace Token

-- Text and tags in any order, but no text next to another. Only the last tag may lack its end.
inductive Bracketed : List Token → Prop
  | none : Bracketed []
  | text {token : Token} {later : List Token} (isText : token.kind = .text) (any : token.value ≠ "")
    (plain : '{' ∉ token.value.toList) (apart : ∀ next ∈ later.head?, next.kind ≠ .text) (goesOn : Bracketed later) :
    Bracketed (token :: later)
  | tag {opening closing : Token} {inside later : List Token} (opens : opening.kind.opensTag)
    (inner : ∀ token ∈ inside, token.kind.inner) (closes : closing.kind.closesTag) (goesOn : Bracketed later) :
    Bracketed (opening :: (inside ++ closing :: later))
  | unclosed {opening : Token} {inside : List Token} (opens : opening.kind.opensTag)
    (inner : ∀ token ∈ inside, token.kind.inner) : Bracketed (opening :: inside)

inductive Closing : List Token → Prop
  | never {inside : List Token} (inner : ∀ token ∈ inside, token.kind.inner) : Closing inside
  | closed {closing : Token} {inside later : List Token} (inner : ∀ token ∈ inside, token.kind.inner)
    (closes : closing.kind.closesTag) (goesOn : Bracketed later) : Closing (inside ++ closing :: later)

theorem Closing.opened {opening : Token} {later : List Token} (opens : opening.kind.opensTag) (closing : Closing later) :
    Bracketed (opening :: later) := by
  cases closing with
  | never inner => exact .unclosed opens inner
  | closed inner closes goesOn => exact .tag opens inner closes goesOn

theorem Closing.cons {token : Token} {later : List Token} (inner : token.kind.inner) (closing : Closing later) :
    Closing (token :: later) := by
  cases closing with
  | never others => exact .never (List.forall_mem_cons.mpr ⟨inner, others⟩)
  | @closed closing inside later others closes goesOn =>
    rw [← List.cons_append]
    exact .closed (List.forall_mem_cons.mpr ⟨inner, others⟩) closes goesOn

theorem Closing.now {closing : Token} {later : List Token} (closes : closing.kind.closesTag) (goesOn : Bracketed later) :
    Closing (closing :: later) :=
  @Closing.closed closing [] later (List.forall_mem_nil _) closes goesOn

theorem Written.outside {kind : TokenKind} {value : String} {text : List Char} (written : Written .text kind value text) :
    kind.opensTag ∨ kind = .text ∧ value ≠ "" ∧ '{' ∉ value.toList := by
  cases written with
  | text any plain =>
    refine .inr ⟨rfl, fun empty => any ?_, by rwa [String.toList_ofList]⟩
    rw [← String.toList_ofList (l := text), empty, String.toList_empty]
  | opening opens => exact .inl opens

theorem punctuation_inner : ∀ kind ∈ TokenKind.punctuation, kind.inner ∨ kind.closesTag := by decide

theorem reserved_inner : ∀ kind ∈ TokenKind.reserved, kind.inner := by decide

theorem Written.inside {kind : TokenKind} {value : String} {text : List Char} (written : Written .tag kind value text) :
    kind.inner ∨ kind.closesTag := by
  cases written with
  | sign listed => exact punctuation_inner kind listed
  | keyword listed => exact .inl (reserved_inner kind listed)
  | identifier | variableName | number | string => exact .inl rfl

theorem after_opensTag {region : Region} {kind : TokenKind} (opens : kind.opensTag) : region.after kind = .tag := by
  rw [Region.after, if_pos opens]

theorem after_closesTag {region : Region} {kind : TokenKind} (closes : kind.closesTag) : region.after kind = .text := by
  have apart : ¬kind.opensTag := by revert closes; cases kind <;> decide
  rw [Region.after, if_neg apart, if_pos closes]

theorem after_inner {region : Region} {kind : TokenKind} (inner : kind.inner) : region.after kind = region := by
  simp only [TokenKind.inner, Bool.and_eq_true, Bool.not_eq_true'] at inner
  rw [Region.after, inner.1.2, inner.2]
  rfl

section scanning

variable {file : String} {first last : Scanner} {tokens : List Token}

theorem ahead_of_text {text later : List Char} (found : Lexeme.first? .text (text ++ later) = some ⟨some .text, text⟩) :
    (∀ c ∈ later.head?, c = '{') ∧ ∃ c ∈ (text ++ later).head?, c ≠ '{' := by
  cases whole : text ++ later with
  | nil =>
    rw [whole] at found
    cases found
  | cons c rest =>
    rw [whole, Lexeme.first?, Lexeme.inText_cons] at found
    split at found
    · cases slash : ['/'].isPrefixOf rest <;> rw [slash] at found <;> cases found
    · rename_i other
      cases found
      have left : later = rest.dropWhile (· != '{') := by
        exact List.append_cancel_left ((List.cons.inj whole).2.trans List.takeWhile_append_dropWhile.symm)
      refine ⟨fun d ahead => ?_, c, rfl, other⟩
      have stops := List.head?_dropWhile_not (· != '{') rest
      rw [← left, show later.head? = some d from ahead] at stops
      simpa using stops

-- What the tokens read from a place on are like: outside tags, where text that was read just
-- before leaves a brace or nothing to read, and inside them.
structure Fitting (scanner : Scanner) (tokens : List Token) : Prop where
  outside : scanner.region = .text → Bracketed tokens
  apart : scanner.region = .text → (∀ c ∈ scanner.rest.head?, c = '{') → ∀ next ∈ tokens.head?, next.kind ≠ .text
  inside : scanner.region = .tag → Closing tokens

theorem Scans.fitting (scans : Scans file first tokens last) : Fitting first tokens := by
  induction scans with
  | stay => exact ⟨fun _ => .none, fun _ _ => nofun, fun _ => .never nofun⟩
  | @blank region offset text later tokens last found _ ih =>
    obtain ⟨reads, -⟩ := Lexeme.first?_reads found
    cases reads with
    | blanks inTag _ =>
      subst inTag
      exact ⟨nofun, nofun, ih.inside⟩
  | @token region offset kind text later tokens last found _ ih =>
    obtain ⟨reads, -⟩ := Lexeme.first?_reads found
    cases reads with
    | token written =>
      cases region with
      | text =>
        refine ⟨fun _ => ?_, ?_, nofun⟩
        · rcases written.outside with opens | ⟨isText, any, plain⟩
          · exact (ih.inside (after_opensTag opens)).opened opens
          · have stays : Region.text.after kind = .text := by rw [isText]; rfl
            subst isText
            exact .text rfl any plain (ih.apart stays (ahead_of_text found).1) (ih.outside stays)
        · rintro _ brace next ahead isText
          cases ahead
          cases isText
          obtain ⟨c, first, other⟩ := (ahead_of_text found).2
          exact other (brace c first)
      | tag =>
        refine ⟨nofun, nofun, fun _ => ?_⟩
        rcases written.inside with inner | closes
        · exact .cons inner (ih.inside (after_inner inner))
        · exact .now closes (ih.outside (after_closesTag closes))

end scanning

end Token
end TypedTemplate
