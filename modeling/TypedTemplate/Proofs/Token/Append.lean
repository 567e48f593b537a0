import TypedTemplate.Proofs.Token.Brackets

namespace TypedTemplate

def Text.isInner (c : Char) : Bool := !isBlank c && c != '}'

def Position.shifted (bytes : Nat) (position : Position) : Position := ⟨bytes.toUInt32 + position.bytes, position.file⟩

theorem Position.shifted_behind (bytes offset : Nat) (file : String) :
    (behind offset file).shifted bytes = behind (bytes + offset) file :=
  congrArg (Position.mk · file) (UInt32.ofNat_add bytes offset).symm

def Token.shifted (bytes : Nat) (token : Token) : Token :=
  { token with span := ⟨token.span.start.shifted bytes, token.span.stop.shifted bytes⟩ }

def Diagnostic.shifted (bytes : Nat) (diagnostic : Diagnostic) : Diagnostic :=
  { diagnostic with position := diagnostic.position.shifted bytes }

open Text (isBlank isInner)

namespace Literal

theorem inner_of_digit {c : Char} (digit : c.isDigit) : isInner c := by
  rw [isInner, Lexeme.not_blank_of_digit digit, Bool.not_false, Bool.true_and, bne_iff_ne]
  rintro rfl
  cases digit

theorem inner_of_nameStart {c : Char} (start : isNameStart c) : isInner c := by
  rw [isInner, Lexeme.not_blank_of_nameStart start, Bool.not_false, Bool.true_and, bne_iff_ne]
  rintro rfl
  cases start

theorem inner_of_nameChar {c : Char} (inside : isNameChar c) : isInner c := by
  rw [isNameChar, Char.isAlphanum, Bool.or_eq_true, Bool.or_eq_true] at inside
  rcases inside with (letter | digit) | line
  · exact inner_of_nameStart (by rw [isNameStart, letter, Bool.true_or])
  · exact inner_of_digit digit
  · exact inner_of_nameStart (by rw [isNameStart, line, Bool.or_true])

variable {text : List Char}

theorem Name.inner (isName : Name text) : ∀ c ∈ text, isInner c := by
  obtain ⟨start, inside⟩ := isName
  exact List.forall_mem_cons.mpr ⟨inner_of_nameStart start, fun c among => inner_of_nameChar (inside c among)⟩

theorem Digits.inner (counts : Digits text) : ∀ c ∈ text, isInner c := fun c among => inner_of_digit (counts.each c among)

theorem Fraction.inner (written : Fraction text) : ∀ c ∈ text, isInner c := by
  cases written with
  | none => exact List.forall_mem_nil _
  | point counts => exact List.forall_mem_cons.mpr ⟨by decide, counts.inner⟩

theorem Exponent.inner (written : Exponent text) : ∀ c ∈ text, isInner c := by
  cases written with
  | none => exact List.forall_mem_nil _
  | @marked mark sign digits marks signs counts =>
    have first : isInner mark := by rcases marks with rfl | rfl <;> decide
    have second : sign.all isInner := by
      revert sign
      decide
    exact List.forall_mem_cons.mpr ⟨first, List.forall_mem_append.mpr ⟨List.all_eq_true.mp second, counts.inner⟩⟩

theorem Number.inner (written : Number text) : ∀ c ∈ text, isInner c := by
  obtain ⟨counts, fraction, exponent⟩ := written
  exact List.forall_mem_append.mpr ⟨counts.inner, List.forall_mem_append.mpr ⟨fraction.inner, exponent.inner⟩⟩

end Literal

namespace Token

open Lexeme (first? first?_reads first?_cut first?_followed first?_quoted)
open Source (byteLength)

variable {file : String} {region : Region} {kind : TokenKind} {value : String} {source text later : List Char}

theorem punctuation_inner_text : ∀ kind ∈ TokenKind.punctuation,
    kind.spelling.toList.all (!isBlank ·) ∧ kind.spelling.toList.dropLast.all isInner := by decide

theorem reserved_inner_text : ∀ kind ∈ TokenKind.reserved, kind.spelling.toList.all isInner := by decide

-- Of the tokens in a tag only quoted texts hold white space, and only they hold a closing brace
-- that does not end them.
theorem Written.dense (written : Written .tag kind value text) (unquoted : kind ≠ .string) :
    (∀ c ∈ text, isBlank c = false) ∧ ∀ c ∈ text.dropLast, isInner c := by
  have whole (inner : ∀ c ∈ text, isInner c) :
      (∀ c ∈ text, isBlank c = false) ∧ ∀ c ∈ text.dropLast, isInner c := by
    refine ⟨fun c among => ?_, fun c among => inner c (List.dropLast_subset text among)⟩
    have solid := inner c among
    rw [isInner, Bool.and_eq_true, Bool.not_eq_true'] at solid
    exact solid.1
  cases written with
  | sign listed =>
    obtain ⟨solid, inner⟩ := punctuation_inner_text kind listed
    rw [List.all_eq_true] at solid inner
    exact ⟨fun c among => (Bool.not_eq_true' _).mp (solid c among), inner⟩
  | keyword listed => exact whole (List.all_eq_true.mp (reserved_inner_text kind listed))
  | identifier isName free => exact whole isName.inner
  | variableName isName => exact whole (List.forall_mem_cons.mpr ⟨by decide, isName.inner⟩)
  | number isNumber => exact whole isNumber.inner
  | string => contradiction

theorem Written.quoted (written : Written region .string value text) :
    region = .tag ∧ ∃ quote rest, text = quote :: rest ∧ (quote = '\'' ∨ quote = '"') := by
  cases written with
  | opening opens => cases opens
  | sign listed => exact absurd listed (by decide)
  | keyword listed => exact absurd listed (by decide)
  | string quotes quotable => exact ⟨rfl, _, _, rfl, quotes⟩

-- A token that has been read from a source is read with more behind it as well, unless the
-- whole source is only the start of another token.
theorem first?_before (found : first? region source = some ⟨some kind, text⟩)
    (unextended : ∀ kind value longer, Written region kind value longer → kind ≠ .string → source <+: longer →
      longer <+: source ++ later → longer = source) :
    first? region (source ++ later) = some ⟨some kind, text⟩ := by
  obtain ⟨lexeme, more⟩ := Option.isSome_iff_exists.mp (first?_followed (by rw [found]; rfl) later)
  obtain ⟨reads, starts⟩ := first?_reads more
  suffices within : lexeme.text <+: source by
    have same := first?_cut more within
    rw [found] at same
    rw [more, same]
  rcases List.prefix_or_prefix_of_prefix starts (List.prefix_append source later) with within | beyond
  · exact within
  obtain ⟨c, rest, rfl⟩ := List.exists_cons_of_ne_nil (l := source) (by rintro rfl; cases region <;> cases found)
  cases reads with
  | blanks inTag each =>
    have blank := each c (beyond.subset List.mem_cons_self)
    subst inTag
    rw [first?, Lexeme.inTag, if_pos blank] at found
    cases found
  | @token kind' longer written =>
    by_cases quoted : kind' = .string
    · subst quoted
      obtain ⟨inTag, quote, others, rfl, quotes⟩ := written.quoted
      subst inTag
      obtain ⟨rfl, -⟩ := List.cons_prefix_cons.mp beyond
      rw [first?_quoted quotes found later] at more
      cases more
      exact (first?_reads found).2
    · exact (unextended kind' _ longer written quoted beyond starts) ▸ List.prefix_refl _

section behind

variable {region' : Region} {offset stop : Nat} {rest : List Char} {token : Token} {tokens : List Token} {first last : Scanner}

theorem ofChars_spaces {space : List Char} (blank : ∀ c ∈ space, isBlank c) :
    ofChars file .tag offset (space ++ rest) = ofChars file .tag (offset + byteLength space) rest := by
  induction space generalizing offset with
  | nil => rfl
  | cons c others ih =>
    rw [List.forall_mem_cons] at blank
    rw [List.cons_append, ofChars_blank blank.1, ih blank.2, Nat.add_assoc]
    rfl

theorem Scans.nothing (scans : Scans file first tokens last) (ends : first.rest = []) : tokens = [] ∧ last = first := by
  cases scans with
  | stay => exact ⟨rfl, rfl⟩
  | blank found => exact absurd (List.append_eq_nil_iff.mp ends).1 (Lexeme.text_ne_nil found)
  | token found => exact absurd (List.append_eq_nil_iff.mp ends).1 (Lexeme.text_ne_nil found)

theorem punctuation_closing : ∀ kind ∈ TokenKind.punctuation, kind.closesTag → '}' ∈ kind.spelling.toList := by decide

theorem reserved_open : ∀ kind ∈ TokenKind.reserved, kind.closesTag = false := by decide

theorem Written.brace (written : Written .tag kind value text) (closes : kind.closesTag) : '}' ∈ text := by
  cases written with
  | sign listed => exact punctuation_closing kind listed closes
  | keyword listed => exact absurd closes (Bool.eq_false_iff.mp (reserved_open kind listed))
  | identifier | variableName | number | string => cases closes

theorem Scans.brace (scans : Scans file first tokens last) (inTag : first.region = .tag) (ended : last.region = .text)
    (all : last.rest = []) : '}' ∈ first.rest := by
  induction scans with
  | stay =>
    rw [inTag] at ended
    cases ended
  | blank _ _ ih => exact List.mem_append_right _ (ih inTag ended all)
  | token found _ ih =>
    dsimp only at inTag
    subst inTag
    cases (first?_reads found).1 with
    | token written =>
      rcases written.inside with inner | closes
      · exact List.mem_append_right _ (ih (after_inner inner) ended all)
      · exact List.mem_append_left _ (written.brace closes)

theorem regionAfter_of_opened (region : Region) (opened : Opened tokens) : regionAfter region tokens = .tag := by
  obtain ⟨front, opening, back, rfl, opens, unclosed⟩ := opened
  rw [regionAfter, List.foldl_append, List.foldl_cons, after_opensTag opens]
  induction back with
  | nil => rfl
  | cons token others ih =>
    rw [List.forall_mem_cons] at unclosed
    have goesOn : Region.tag.after token.kind = .tag := by
      rw [Region.after, unclosed.1]
      split <;> rfl
    rw [List.foldl_cons, goesOn]
    exact ih unclosed.2

-- Where more of a source can be put behind some tokens: in a tag white space and what comes after
-- it, outside anything behind a delimiter, and behind text what starts with a brace.
def Seam (region : Region) (tokens : List Token) (later : List Char) : Prop :=
  match region with
  | .tag => ∀ c ∈ later.head?, isBlank c
  | .text => (∀ token ∈ tokens.getLast?, token.kind ≠ .text) ∨ ∀ c ∈ later.head?, c = '{'

theorem Seam.tail (seam : Seam region (token :: tokens) later) : Seam region tokens later := by
  cases region with
  | tag => exact seam
  | text =>
    refine seam.imp_left fun apart other last => apart other ?_
    cases tokens with
    | nil => cases last
    | cons second others => exact last

variable {longer : List Char}

theorem ahead_of_longer (goesOn : source <+: longer) (within : longer <+: source ++ later) (more : longer ≠ source) :
    ∃ c ∈ later.head?, ∃ others, longer = source ++ c :: others := by
  obtain ⟨left, rfl⟩ := goesOn
  cases left with
  | nil => exact absurd (List.append_nil source) more
  | cons c others =>
    obtain ⟨rest, rfl⟩ := (List.prefix_append_right_inj source).mp within
    exact ⟨c, rfl, others, rfl⟩

-- A token of a tag does not go on behind the seam: what stands before it has the brace that ends
-- the tag, or white space comes first.
theorem Scans.unextended_inTag (scans : Scans file first tokens last) (inTag : first.region = .tag) (all : last.rest = [])
    (seam : Seam last.region tokens later) (written : Written .tag kind value longer) (unquoted : kind ≠ .string)
    (goesOn : first.rest <+: longer) (within : longer <+: first.rest ++ later) : longer = first.rest := by
  by_contra more
  obtain ⟨c, ahead, others, rfl⟩ := ahead_of_longer goesOn within more
  obtain ⟨solid, inner⟩ := written.dense unquoted
  cases ended : last.region with
  | tag =>
    rw [ended] at seam
    have blank : isBlank c := seam c ahead
    rw [solid c (List.mem_append_right _ List.mem_cons_self)] at blank
    cases blank
  | text =>
    have brace := scans.brace inTag ended all
    rw [List.dropLast_append_of_ne_nil (List.cons_ne_nil c others)] at inner
    exact absurd (inner '}' (List.mem_append_left _ brace)) (by decide)

theorem Scans.single (scans : Scans file first tokens last) (all : last.rest = [])
    (found : first? first.region first.rest = some ⟨some kind, first.rest⟩) :
    last.region = first.region.after kind ∧ ∃ token, tokens = [token] ∧ token.kind = kind := by
  cases scans with
  | stay => exact absurd all (Lexeme.text_ne_nil found)
  | blank found' =>
    rw [found'] at found
    cases found
  | @token region offset kind' text rest tokens _ found' goesOn =>
    dsimp only at found
    rw [found', Option.some_inj, Lexeme.mk.injEq, Option.some_inj] at found
    obtain ⟨rfl, whole⟩ := found
    obtain ⟨rfl, rfl⟩ := goesOn.nothing (List.append_right_eq_self.mp whole.symm)
    exact ⟨rfl, _, rfl, rfl⟩

theorem opening_text : ∀ kind : TokenKind, kind.opensTag → kind.spelling.toList ∈ [['{'], ['{', '/']] := by
  intro kind opens
  cases kind <;> first | exact absurd opens (by decide) | decide

theorem opening_extended {c : Char} {others : List Char} (opens : kind.opensTag) (some : source ≠ [])
    (joined : kind.spelling.toList = source ++ c :: others) : source = ['{'] ∧ c = '/' := by
  have spelled := opening_text kind opens
  rw [joined, List.mem_cons, List.mem_singleton] at spelled
  rcases spelled with short | long
  · exact absurd (List.append_eq_singleton_iff.mp short) (by simp [some])
  · rcases List.append_eq_cons_iff.mp long with ⟨none, -⟩ | ⟨rest, same, slash⟩
    · exact absurd none some
    · rcases List.append_eq_singleton_iff.mp slash.symm with ⟨rfl, only⟩ | ⟨_, none⟩
      · exact ⟨same, (List.cons.inj only).1⟩
      · cases none

-- Outside tags text goes on up to a brace, and a brace to the slash behind it.
theorem Scans.unextended_inText (scans : Scans file first tokens last) (outside : first.region = .text)
    (all : last.rest = []) (seam : Seam last.region tokens later) (some : first.rest ≠ [])
    (written : Written .text kind value longer) (goesOn : first.rest <+: longer)
    (within : longer <+: first.rest ++ later) : longer = first.rest := by
  by_contra more
  obtain ⟨c, ahead, others, joined⟩ := ahead_of_longer goesOn within more
  cases written with
  | text any plain =>
    rw [joined, List.mem_append, not_or] at plain
    have found := (Lexeme.first?_of_written (.text some plain.1)).1
    rw [← outside] at found
    obtain ⟨ended, token, rfl, isText⟩ := scans.single all found
    rw [ended, outside] at seam
    rcases seam with apart | brace
    · exact apart token rfl isText
    · exact plain.2 (brace c ahead ▸ List.mem_cons_self)
  | opening opens =>
    have split := opening_extended opens some joined
    have found := (Lexeme.first?_of_written (@Written.opening .openCurly rfl)).1
    rw [← outside, ← show first.rest = TokenKind.openCurly.spelling.toList from split.1] at found
    obtain ⟨ended, -⟩ := scans.single all found
    rw [ended, outside] at seam
    have blank : isBlank c := seam c ahead
    rw [split.2] at blank
    cases blank

theorem Scans.followed (scans : Scans file first tokens last) (all : last.rest = []) (seam : Seam last.region tokens later) :
    ofChars file first.region first.offset (first.rest ++ later) =
      (ofChars file last.region last.offset later).map (tokens ++ ·) := by
  induction scans with
  | stay =>
    rw [all]
    exact (map_nil_append _).symm
  | @blank region offset text rest tokens last found _ ih =>
    cases (first?_reads found).1 with
    | blanks inTag each =>
      subst inTag
      rw [← ih all seam, List.append_assoc]
      exact ofChars_spaces each
  | @token region offset kind text rest tokens last found goesOn ih =>
    have scans : Scans file ⟨region, offset, text ++ rest⟩ _ last := .token found goesOn
    have whole : first? region (text ++ rest ++ later) = some ⟨some kind, text⟩ := by
      refine first?_before found fun kind value longer written unquoted starts within => ?_
      cases region with
      | tag => exact scans.unextended_inTag rfl all seam written unquoted starts within
      | text =>
        refine scans.unextended_inText rfl all seam ?_ written starts within
        exact List.append_ne_nil_of_left_ne_nil (Lexeme.text_ne_nil found) rest
    rw [List.append_assoc] at whole ⊢
    rw [ofChars_token whole, ih all seam.tail, map_map_append]
    rfl

end behind

section whole

variable {offset : Nat} {tokens earlier : List Token}

def shiftedOutcome (bytes : Nat) : Except Diagnostic (List Token) → Except Diagnostic (List Token)
  | .ok tokens => .ok (tokens.map (shifted bytes))
  | .error diagnostic => .error (diagnostic.shifted bytes)

theorem shiftedOutcome_map (bytes : Nat) (outcome : Except Diagnostic (List Token)) (earlier : List Token) :
    shiftedOutcome bytes (outcome.map (earlier ++ ·)) =
      (shiftedOutcome bytes outcome).map (earlier.map (shifted bytes) ++ ·) := by
  cases outcome with
  | error diagnostic => rfl
  | ok tokens => exact congrArg Except.ok List.map_append

theorem ofChars_shifted (file : String) (region : Region) (bytes offset : Nat) (source : List Char) :
    ofChars file region (bytes + offset) source = shiftedOutcome bytes (ofChars file region offset source) := by
  fun_induction ofChars file region offset source with
  | case1 region offset =>
    rw [ofChars, ← Position.shifted_behind]
    rfl
  | case2 region offset c rest stuck =>
    rw [ofChars_stuck stuck, ← Position.shifted_behind]
    rfl
  | case3 region offset c rest lexeme found stop remaining =>
    rename_i blanks ih
    obtain ⟨later, split⟩ := (first?_reads found).2
    obtain ⟨kind, text⟩ := lexeme
    cases blanks
    rw [← ih, show remaining = later from drop_eq split]
    rw [← split] at found ⊢
    rw [ofChars_passed found, Nat.add_assoc]
  | case4 region offset c rest lexeme found stop remaining kind =>
    rename_i named ih
    obtain ⟨later, split⟩ := (first?_reads found).2
    obtain ⟨kind, text⟩ := lexeme
    cases named
    rw [show remaining = later from drop_eq split] at ih ⊢
    rw [← split] at found ⊢
    rw [ofChars_token found, Nat.add_assoc, ih, ← Position.shifted_behind, ← Position.shifted_behind]
    exact (shiftedOutcome_map bytes _ [⟨kind, Lexeme.value kind text, ⟨.behind offset file, .behind stop file⟩⟩]).symm

end whole

end Token
end TypedTemplate
