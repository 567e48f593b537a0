import TypedTemplate.Proofs.Token.Cover

namespace TypedTemplate

namespace Literal

theorem quotedTail_followed {quote : Char} {source tail : List Char} (found : quotedTail quote source = some tail)
    (later : List Char) : quotedTail quote (source ++ later) = some tail := by
  fun_induction quotedTail quote source generalizing tail with
  | case1 | case2 | case3 => cases found
  | case4 c rest inline ih =>
    obtain ⟨more, quoted, rfl⟩ := Option.map_eq_some_iff.mp found
    rw [List.cons_append, List.cons_append, quotedTail, if_neg inline, ih quoted, Option.map_some]
  | case5 rest single =>
    cases found
    rw [List.cons_append, quotedTail, if_pos rfl]
    exact single
  | case6 c rest single other ih =>
    obtain ⟨more, quoted, rfl⟩ := Option.map_eq_some_iff.mp found
    rw [List.cons_append, quotedTail, if_neg other, ih quoted, Option.map_some]
    exact single

end Literal

namespace Lexeme

open Literal Token

theorem variableName?_followed {text : List Char} (found : (variableName? text).isSome) (later : List Char) :
    (variableName? (text ++ later)).isSome := by
  cases text with
  | nil => cases found
  | cons c rest =>
    rw [variableName?] at found
    rw [List.cons_append, variableName?]
    split
    · rfl
    · rename_i other
      rw [if_neg other] at found
      cases found

theorem punctuation?_followed {text : List Char} (found : (punctuation? text).isSome) (later : List Char) :
    (punctuation? (text ++ later)).isSome := by
  rw [punctuation?, Option.isSome_map, List.find?_isSome] at found ⊢
  obtain ⟨kind, listed, starts⟩ := found
  refine ⟨kind, listed, ?_⟩
  rw [List.isPrefixOf_iff_prefix] at starts ⊢
  exact starts.trans (List.prefix_append text later)

theorem first?_followed {region : Region} {text : List Char} (found : (first? region text).isSome) (later : List Char) :
    (first? region (text ++ later)).isSome := by
  cases text with
  | nil => cases region <;> cases found
  | cons c rest =>
    cases region with
    | text =>
      rw [List.cons_append, first?, inText.eq_def]
      split <;> first | rfl | contradiction
    | tag =>
      rw [first?, inTag] at found
      rw [List.cons_append, first?, inTag]
      split
      · rfl
      rename_i blank
      rw [if_neg blank] at found
      split
      · rename_i dollar
        rw [if_pos dollar] at found
        exact variableName?_followed found later
      rename_i dollar
      rw [if_neg dollar] at found
      split
      · rfl
      rename_i letter
      rw [if_neg letter] at found
      split
      · rfl
      rename_i digit
      rw [if_neg digit] at found
      split
      · rename_i quotes
        rw [if_pos quotes, Option.isSome_map] at found
        obtain ⟨tail, quoted⟩ := Option.isSome_iff_exists.mp found
        rw [quotedTail_followed quoted later]
        rfl
      · rename_i quotes
        rw [if_neg quotes] at found
        exact punctuation?_followed found later

theorem first?_quoted {quote : Char} {source : List Char} {lexeme : Lexeme} (quotes : quote = '\'' ∨ quote = '"')
    (found : first? .tag (quote :: source) = some lexeme) (later : List Char) :
    first? .tag (quote :: source ++ later) = some lexeme := by
  rw [List.cons_append]
  rw [first?, inTag_quote quotes] at found ⊢
  obtain ⟨tail, quoted, rfl⟩ := Option.map_eq_some_iff.mp found
  rw [quotedTail_followed quoted later, Option.map_some]

end Lexeme

namespace Token

open Source (Boundary byteLength)

inductive Unreadable (source : String) (region : Region) : Nat → Char → Prop
  | stuck {before after : List Char} {c : Char} (whole : source.toList = before ++ c :: after)
    (solid : region = .tag → Text.isBlank c = false)
    (unwritten : ∀ text kind value, text <+: c :: after → ¬Written region kind value text) :
    Unreadable source region (byteLength before) c

inductive Halts (source file : String) : Region → Nat → Nat → Char → Prop
  | here {region : Region} {reached offset : Nat} {c : Char} (passed : Passed source region reached offset)
    (unreadable : Unreadable source region offset c) : Halts source file region reached offset c
  | token {region : Region} {reached offset : Nat} {c : Char} {token : Token}
    (standing : Standing source file region reached token)
    (later : Halts source file (region.after token.kind) token.stop offset c) : Halts source file region reached offset c

theorem unreadable_of_none {source : String} {region : Region} {before after : List Char} {c : Char}
    (whole : source.toList = before ++ c :: after) (none : Lexeme.first? region (c :: after) = none) :
    Unreadable source region (byteLength before) c := by
  refine .stuck whole ?_ ?_
  · rintro rfl
    rw [Lexeme.first?, Lexeme.inTag] at none
    by_contra blank
    rw [if_pos (by simpa using blank)] at none
    cases none
  · rintro text kind value ⟨later, split⟩ written
    have found : (Lexeme.first? region text).isSome := by rw [(Lexeme.first?_of_written written).1]; rfl
    have more := Lexeme.first?_followed found later
    rw [split, none] at more
    cases more

-- Induction on the reading as in `ofChars_walk`, for a reading that fails.
theorem ofChars_halts {source file : String} {region : Region} {before gap rest : List Char} {offset : Nat}
    {diagnostic : Diagnostic} (small : source.utf8ByteSize < 2 ^ 32) (failed : ofChars file region offset rest = .error diagnostic)
    (whole : source.toList = before ++ (gap ++ rest)) (reached : offset = byteLength before + byteLength gap)
    (blank : ∀ c ∈ gap, Text.isBlank c) (inside : gap ≠ [] → region = .tag) :
    ∃ stop c, diagnostic = ⟨.unrecognisedToken (.singleton c), .behind stop file, none⟩ ∧
      Halts source file region (byteLength before) stop c := by
  fun_induction ofChars file region offset rest generalizing before gap with
  | case1 => cases failed
  | case2 region offset c rest none =>
    cases failed
    refine ⟨offset, c, rfl, .here ?_ ?_⟩
    · rw [reached]
      exact passed_gap whole blank inside
    · rw [reached, ← Source.byteLength_append]
      exact unreadable_of_none (by rw [whole, List.append_assoc]) none
  | case3 region offset c rest lexeme found stop remaining =>
    rename_i blanks ih
    obtain ⟨reads, later, split⟩ := Lexeme.first?_reads found
    have left : remaining = later := drop_eq split
    cases reads with
    | token written => cases blanks
    | @blanks text inTag each =>
      refine @ih before (gap ++ text) failed ?_ ?_ ?_ fun _ => inTag
      · rw [whole, ← split, left, List.append_assoc]
      · rw [Source.byteLength_append, ← Nat.add_assoc, ← reached]
      · exact fun d among => (List.mem_append.mp among).elim (blank d) (each d)
  | case4 region offset c rest lexeme found stop remaining kind =>
    rename_i named ih
    obtain ⟨reads, later, split⟩ := Lexeme.first?_reads found
    have left : remaining = later := drop_eq split
    cases reads with
    | blanks inTag each => cases named
    | @token kind text written =>
      cases named
      cases more : ofChars file (region.after kind) stop remaining with
      | ok others =>
        rw [more] at failed
        cases failed
      | error diagnostic' =>
        rw [more] at failed
        cases failed
        have past : source.toList = (before ++ (gap ++ text)) ++ later := by
          rw [whole, ← split, List.append_assoc, List.append_assoc]
        have stops : stop = byteLength (before ++ (gap ++ text)) := by
          rw [Source.byteLength_append, Source.byteLength_append, ← Nat.add_assoc, ← reached]
        obtain ⟨last, d, same, halts⟩ := @ih (before ++ (gap ++ text)) [] more (left ▸ past) stops (List.forall_mem_nil _) (absurd rfl)
        rw [← offset_behind_split small past, ← stops] at halts
        have standing : Standing source file region (byteLength before) ⟨kind, _, ⟨.behind offset file, .behind stop file⟩⟩ :=
          standing_of_split small (split ▸ whole) reached rfl blank inside (Lexeme.text_ne_nil found) written
        exact ⟨last, d, same, .token standing halts⟩

theorem Halts.boundary {source file : String} {region : Region} {reached offset : Nat} {c : Char}
    (halts : Halts source file region reached offset c) : Boundary source offset := by
  induction halts with
  | here _ unreadable =>
    obtain ⟨whole, _, _⟩ := unreadable
    exact Source.boundary_of_append whole
  | token _ _ ih => exact ih

section starting

variable {source file : String} {region : Region} {reached : Nat} {tokens : List Token}

theorem Written.inner {kind : TokenKind} {value : String} {text : List Char} (written : Written region kind value text) :
    kind ≠ .eof := by
  cases written with
  | opening opens => rintro rfl; cases opens
  | sign listed => exact ne_of_mem_of_not_mem listed (by decide)
  | keyword listed => exact ne_of_mem_of_not_mem listed (by decide)
  | text | identifier | variableName | number | string => exact nofun

theorem Walk.token_placed (walk : Walk source file region reached tokens) : ∀ token ∈ tokens,
    token.span.start.file = file ∧ Boundary source token.start ∧ (token.kind = .eof → token.start = source.utf8ByteSize) := by
  induction walk with
  | ending small _ =>
    refine List.forall_mem_singleton.mpr ⟨rfl, ?_, fun _ => start_atEnd small file⟩
    rw [start_atEnd small]
    exact Source.boundary_end source
  | token _ placed _ written _ ih =>
    exact List.forall_mem_cons.mpr
      ⟨⟨placed.files.1, placed.boundaries.1, fun ends => absurd ends written.inner⟩, ih⟩

end starting

end Token
end TypedTemplate
