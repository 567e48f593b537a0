import TypedTemplate.Proofs.Token.Lexing

namespace TypedTemplate

namespace Literal

inductive Name : List Char → Prop
  | intro {c : Char} {others : List Char} (start : isNameStart c) (inside : ∀ d ∈ others, isNameChar d) :
    Name (c :: others)

structure Digits (text : List Char) : Prop where
  any : text ≠ []
  each : ∀ c ∈ text, c.isDigit

inductive Fraction : List Char → Prop
  | none : Fraction []
  | point {digits : List Char} (counts : Digits digits) : Fraction ('.' :: digits)

inductive Exponent : List Char → Prop
  | none : Exponent []
  | marked {mark : Char} {sign digits : List Char} (marks : mark = 'e' ∨ mark = 'E') (signs : sign ∈ [[], ['+'], ['-']])
    (counts : Digits digits) : Exponent (mark :: (sign ++ digits))

inductive Number : List Char → Prop
  | intro {whole part power : List Char} (counts : Digits whole) (fraction : Fraction part) (exponent : Exponent power) :
    Number (whole ++ (part ++ power))

-- What stands between two quotes: no other quote of that sort and no backslash but in front
-- of some character, which is not the end of a line.
inductive Quotable (quote : Char) : List Char → Prop
  | nil : Quotable quote []
  | plain {c : Char} {rest : List Char} (other : c ≠ quote) (single : c ≠ '\\') (later : Quotable quote rest) :
    Quotable quote (c :: rest)
  | escape {c : Char} {rest : List Char} (inline : c ≠ '\n') (later : Quotable quote rest) :
    Quotable quote ('\\' :: c :: rest)

theorem prefix_append {first second source : List Char} (starts : first <+: source)
    (goesOn : second <+: source.drop first.length) : first ++ second <+: source := by
  obtain ⟨rest, rfl⟩ := starts
  rw [List.drop_left] at goesOn
  exact (List.prefix_append_right_inj first).mpr goesOn

theorem digits_takeWhile {source : List Char} (any : (source.takeWhile Char.isDigit).isEmpty = false) :
    Digits (source.takeWhile Char.isDigit) :=
  ⟨List.isEmpty_eq_false_iff.mp any, fun _ inside => List.mem_takeWhile_imp inside⟩

section reading

variable (source : List Char)

theorem fraction_reads : Fraction (fraction source) ∧ fraction source <+: source := by
  unfold fraction
  split
  · rename_i rest
    dsimp only
    split
    · exact ⟨.none, List.nil_prefix⟩
    · rename_i any
      exact ⟨.point (digits_takeWhile (by simpa using any)), (List.prefix_cons_inj '.').mpr (List.takeWhile_prefix _)⟩
  · exact ⟨.none, List.nil_prefix⟩

theorem exponentSign_reads : exponentSign source ∈ [[], ['+'], ['-']] ∧ exponentSign source <+: source := by
  unfold exponentSign
  split
  · exact ⟨by decide, (List.prefix_cons_inj '+').mpr List.nil_prefix⟩
  · exact ⟨by decide, (List.prefix_cons_inj '-').mpr List.nil_prefix⟩
  · exact ⟨by decide, List.nil_prefix⟩

theorem exponent_reads : Exponent (exponent source) ∧ exponent source <+: source := by
  unfold exponent
  split
  · rename_i mark rest
    split
    · rename_i marks
      dsimp only
      split
      · exact ⟨.none, List.nil_prefix⟩
      · rename_i any
        obtain ⟨signs, starts⟩ := exponentSign_reads rest
        refine ⟨.marked marks signs (digits_takeWhile (by simpa using any)), (List.prefix_cons_inj mark).mpr ?_⟩
        exact prefix_append starts (List.takeWhile_prefix _)
    · exact ⟨.none, List.nil_prefix⟩
  · exact ⟨.none, List.nil_prefix⟩

theorem number_eq : number source =
    source.takeWhile Char.isDigit ++ (fraction (source.dropWhile Char.isDigit) ++
      exponent ((source.dropWhile Char.isDigit).drop (fraction (source.dropWhile Char.isDigit)).length)) := by
  rw [number, List.append_assoc, Token.drop_takeWhile]

theorem number_prefix : number source <+: source := by
  rw [number_eq]
  refine prefix_append (List.takeWhile_prefix _) ?_
  rw [Token.drop_takeWhile]
  exact prefix_append (fraction_reads _).2 (exponent_reads _).2

end reading

theorem number_reads {c : Char} (digit : c.isDigit) (rest : List Char) : Number (number (c :: rest)) := by
  rw [number_eq]
  refine .intro (digits_takeWhile ?_) (fraction_reads _).1 (exponent_reads _).1
  rw [List.takeWhile_cons_of_pos digit]
  rfl

theorem quotedTail_reads {quote : Char} {source tail : List Char} (found : quotedTail quote source = some tail) :
    (∃ body, tail = body ++ [quote] ∧ Quotable quote body) ∧ tail <+: source := by
  fun_induction quotedTail quote source generalizing tail with
  | case1 | case2 | case3 => cases found
  | case4 c rest inline ih =>
    obtain ⟨later, more, rfl⟩ := Option.map_eq_some_iff.mp found
    obtain ⟨⟨body, rfl, quotable⟩, starts⟩ := ih more
    exact ⟨⟨'\\' :: c :: body, rfl, .escape inline quotable⟩,
      (List.prefix_cons_inj _).mpr ((List.prefix_cons_inj _).mpr starts)⟩
  | case5 rest single =>
    cases found
    exact ⟨⟨[], rfl, .nil⟩, (List.prefix_cons_inj _).mpr List.nil_prefix⟩
  | case6 c rest single other ih =>
    obtain ⟨later, more, rfl⟩ := Option.map_eq_some_iff.mp found
    obtain ⟨⟨body, rfl, quotable⟩, starts⟩ := ih more
    exact ⟨⟨c :: body, rfl, .plain other single quotable⟩, (List.prefix_cons_inj _).mpr starts⟩

section writing

theorem takeWhile_digits {text rest : List Char} (counts : Digits text) (ends : ∀ c ∈ rest.head?, c.isDigit = false) :
    (text ++ rest).takeWhile Char.isDigit = text ∧ (text ++ rest).dropWhile Char.isDigit = rest := by
  have stops : rest.takeWhile Char.isDigit = [] ∧ rest.dropWhile Char.isDigit = rest := by
    cases rest with
    | nil => exact ⟨rfl, rfl⟩
    | cons c others =>
      have other : ¬c.isDigit = true := by simpa using ends c rfl
      exact ⟨List.takeWhile_cons_of_neg other, List.dropWhile_cons_of_neg other⟩
  rw [List.takeWhile_append_of_pos counts.each, List.dropWhile_append_of_pos counts.each, stops.1, stops.2, List.append_nil]
  exact ⟨rfl, rfl⟩

theorem Digits.not_isEmpty {text : List Char} (counts : Digits text) : text.isEmpty = false :=
  List.isEmpty_eq_false_iff.mpr counts.any

theorem Exponent.head {power : List Char} (written : Exponent power) : ∀ c ∈ power.head?, c = 'e' ∨ c = 'E' := by
  cases written with
  | none => nofun
  | marked marks _ _ =>
    intro c first
    cases first
    exact marks

theorem Exponent.ends {power : List Char} (written : Exponent power) : ∀ c ∈ power.head?, c.isDigit = false := by
  intro c first
  rcases written.head c first with rfl | rfl <;> decide

theorem Fraction.ends {part power : List Char} (written : Fraction part) (later : Exponent power) :
    ∀ c ∈ (part ++ power).head?, c.isDigit = false := by
  cases written with
  | none => exact later.ends
  | point _ =>
    intro c first
    cases first
    decide

theorem fraction_append {part power : List Char} (written : Fraction part) (later : Exponent power) :
    fraction (part ++ power) = part := by
  cases written with
  | none =>
    rw [List.nil_append, fraction]
    rintro rest rfl
    rcases later.head '.' rfl with same | same <;> cases same
  | @point digits counts =>
    rw [List.cons_append, fraction, (takeWhile_digits counts later.ends).1, counts.not_isEmpty]
    rfl

theorem exponentSign_append {sign digits : List Char} (signs : sign ∈ [[], ['+'], ['-']]) (counts : Digits digits) :
    exponentSign (sign ++ digits) = sign := by
  simp only [List.mem_cons, List.not_mem_nil, or_false] at signs
  rcases signs with rfl | rfl | rfl
  · rw [List.nil_append, exponentSign]
    · rintro tail rfl
      exact absurd (counts.each '+' List.mem_cons_self) (by decide)
    · rintro tail rfl
      exact absurd (counts.each '-' List.mem_cons_self) (by decide)
  · rfl
  · rfl

theorem exponent_eq {power : List Char} (written : Exponent power) : exponent power = power := by
  cases written with
  | none => rfl
  | @marked mark sign digits marks signs counts =>
    have whole : digits.takeWhile Char.isDigit = digits := List.takeWhile_eq_self_iff.mpr counts.each
    rw [exponent, if_pos marks, exponentSign_append signs counts]
    dsimp only
    rw [List.drop_left, whole, counts.not_isEmpty]
    rfl

theorem Number.head {text : List Char} (written : Number text) : ∃ c rest, text = c :: rest ∧ c.isDigit := by
  obtain ⟨counts, _, _⟩ := written
  obtain ⟨c, others, rfl⟩ := List.exists_cons_of_ne_nil counts.any
  exact ⟨c, _, rfl, counts.each c List.mem_cons_self⟩

theorem number_eq_of_written {text : List Char} (written : Number text) : number text = text := by
  obtain ⟨counts, fraction, exponent⟩ := written
  obtain ⟨taken, dropped⟩ := takeWhile_digits counts (fraction.ends exponent)
  rw [number_eq, taken, dropped, fraction_append fraction exponent, List.drop_left, exponent_eq exponent]

theorem quotedTail_append {quote : Char} {body : List Char} (ordinary : quote ≠ '\\') (quotable : Quotable quote body) :
    quotedTail quote (body ++ [quote]) = some (body ++ [quote]) := by
  induction quotable with
  | nil =>
    rw [List.nil_append, quotedTail, if_pos rfl]
    exact ordinary
  | plain other single later ih =>
    rw [List.cons_append, quotedTail, if_neg other, ih]
    · rfl
    · exact single
  | escape inline later ih =>
    rw [List.cons_append, List.cons_append, quotedTail, if_neg inline, ih]
    rfl

end writing

end Literal

namespace Token

open Literal (Name Number Quotable unescape)

inductive Written : Region → TokenKind → String → List Char → Prop
  | text {piece : List Char} (any : piece ≠ []) (plain : '{' ∉ piece) : Written .text .text (.ofList piece) piece
  | opening {kind : TokenKind} (opens : kind.opensTag) : Written .text kind kind.spelling kind.spelling.toList
  | sign {kind : TokenKind} (listed : kind ∈ TokenKind.punctuation) : Written .tag kind kind.spelling kind.spelling.toList
  | keyword {kind : TokenKind} (listed : kind ∈ TokenKind.reserved) : Written .tag kind kind.spelling kind.spelling.toList
  | identifier {name : List Char} (isName : Name name) (free : ∀ kind ∈ TokenKind.reserved, kind.spelling.toList ≠ name) :
    Written .tag .identifier (.ofList name) name
  | variableName {name : List Char} (isName : Name name) : Written .tag .variableName (.ofList name) ('$' :: name)
  | number {piece : List Char} (isNumber : Number piece) : Written .tag .number (.ofList piece) piece
  | string {quote : Char} {body : List Char} (quotes : quote = '\'' ∨ quote = '"') (quotable : Quotable quote body) :
    Written .tag .string (.ofList (unescape body)) (quote :: (body ++ [quote]))

end Token

namespace Lexeme

open Literal Token

variable {region : Region} {source text : List Char} {lexeme : Lexeme} {kind : TokenKind}

theorem value_spelling (unnamed : kind ≠ .variableName) (unquoted : kind ≠ .string) :
    value kind kind.spelling.toList = kind.spelling := by
  unfold value
  split
  · contradiction
  · contradiction
  · exact String.ofList_toList

-- White space that is passed over, or a token written by the rule of its kind. Either way it
-- is what the source starts with.
inductive Reads (region : Region) : Lexeme → Prop
  | blanks {text : List Char} (inside : region = .tag) (each : ∀ c ∈ text, Text.isBlank c) : Reads region ⟨none, text⟩
  | token {kind : TokenKind} {text : List Char} (written : Written region kind (value kind text) text) :
    Reads region ⟨some kind, text⟩

theorem reads_ofKind (plain : kind ≠ .variableName ∧ kind ≠ .string)
    (written : Written region kind kind.spelling kind.spelling.toList) : Reads region (ofKind kind) := by
  refine .token ?_
  rwa [value_spelling plain.1 plain.2]

theorem takeWhile_cons_reads (holds : Char → Bool) {c : Char} (first : holds c) (rest : List Char) :
    (∀ d ∈ c :: rest.takeWhile holds, holds d) ∧ c :: rest.takeWhile holds <+: c :: rest := by
  refine ⟨fun d inside => ?_, (List.prefix_cons_inj c).mpr (List.takeWhile_prefix _)⟩
  rcases List.mem_cons.mp inside with rfl | later
  · exact first
  · exact List.mem_takeWhile_imp later

theorem inText_reads (found : inText source = some lexeme) : Reads .text lexeme ∧ lexeme.text <+: source := by
  unfold inText at found
  split at found <;> cases found
  · exact ⟨reads_ofKind (by decide) (.opening rfl), by simp [ofKind, TokenKind.spelling]⟩
  · exact ⟨reads_ofKind (by decide) (.opening rfl), by simp [ofKind, TokenKind.spelling]⟩
  · rename_i c rest _ other
    obtain ⟨each, starts⟩ := takeWhile_cons_reads (· != '{') (bne_iff_ne.mpr other) rest
    exact ⟨.token (.text (List.cons_ne_nil _ _) fun brace => by simpa using each '{' brace), starts⟩

theorem name_reads {c : Char} (start : isNameStart c) (rest : List Char) :
    Name (c :: rest.takeWhile isNameChar) ∧ c :: rest.takeWhile isNameChar <+: c :: rest :=
  ⟨.intro start fun _ inside => List.mem_takeWhile_imp inside, (List.prefix_cons_inj c).mpr (List.takeWhile_prefix _)⟩

theorem reserved_plain : ∀ kind ∈ TokenKind.reserved, kind ≠ .variableName ∧ kind ≠ .string := by decide

theorem punctuation_plain : ∀ kind ∈ TokenKind.punctuation, kind ≠ .variableName ∧ kind ≠ .string := by decide

theorem word_reads {name : List Char} (isName : Name name) : Reads .tag (word name) := by
  unfold word
  split
  · rename_i kind found
    have listed := List.mem_of_find?_eq_some found
    have spelled : kind.spelling.toList = name := by simpa using List.find?_some found
    subst spelled
    exact reads_ofKind (reserved_plain kind listed) (.keyword listed)
  · rename_i none
    exact .token (.identifier isName fun kind listed => by simpa using List.find?_eq_none.mp none kind listed)

theorem punctuation?_reads (found : punctuation? source = some lexeme) :
    Reads .tag lexeme ∧ lexeme.text <+: source := by
  obtain ⟨kind, first, rfl⟩ := Option.map_eq_some_iff.mp found
  have listed := List.mem_of_find?_eq_some first
  have starts : kind.spelling.toList <+: source := by simpa using List.find?_some first
  exact ⟨reads_ofKind (punctuation_plain kind listed) (.sign listed), starts⟩

theorem variableName?_reads (found : variableName? source = some lexeme) :
    Reads .tag lexeme ∧ lexeme.text <+: '$' :: source := by
  unfold variableName? at found
  split at found
  · rename_i c rest
    split at found
    · rename_i start
      cases found
      obtain ⟨isName, starts⟩ := name_reads start rest
      exact ⟨.token (.variableName isName), (List.prefix_cons_inj '$').mpr starts⟩
    · cases found
  · cases found

theorem inTag_reads (found : inTag source = some lexeme) : Reads .tag lexeme ∧ lexeme.text <+: source := by
  cases source with
  | nil => cases found
  | cons c rest =>
    rw [inTag] at found
    split at found
    · rename_i blank
      cases found
      obtain ⟨each, starts⟩ := takeWhile_cons_reads Text.isBlank blank rest
      exact ⟨.blanks rfl each, starts⟩
    split at found
    · rename_i _ dollar
      subst dollar
      exact variableName?_reads found
    split at found
    · rename_i start
      cases found
      obtain ⟨isName, starts⟩ := name_reads start rest
      exact ⟨word_reads isName, by rwa [word_text]⟩
    split at found
    · rename_i digit
      cases found
      exact ⟨.token (.number (number_reads digit rest)), number_prefix _⟩
    split at found
    · rename_i quotes
      obtain ⟨tail, quoted, rfl⟩ := Option.map_eq_some_iff.mp found
      obtain ⟨⟨body, rfl, quotable⟩, starts⟩ := quotedTail_reads quoted
      have meant : value .string (c :: (body ++ [c])) = .ofList (unescape body) := by
        rw [value, List.drop_succ_cons, List.drop_zero, List.dropLast_concat]
      refine ⟨.token ?_, (List.prefix_cons_inj c).mpr starts⟩
      rw [meant]
      exact .string quotes quotable
    · exact punctuation?_reads found

theorem first?_reads (found : first? region source = some lexeme) : Reads region lexeme ∧ lexeme.text <+: source := by
  cases region with
  | text => exact inText_reads found
  | tag => exact inTag_reads found

theorem digit_bounds {c : Char} (digit : c.isDigit) : 48 ≤ c.toNat ∧ c.toNat ≤ 57 := by
  have bounds : (decide (48 ≤ c.val) && decide (c.val ≤ 57)) = true := digit
  rw [Bool.and_eq_true, decide_eq_true_eq, decide_eq_true_eq] at bounds
  exact bounds

theorem not_blank_of_digit {c : Char} (digit : c.isDigit) : Text.isBlank c = false := by
  obtain ⟨low, high⟩ := digit_bounds digit
  simp only [Text.isBlank, Text.Ranges.contains, Text.blanks, List.any_cons, List.any_nil, Bool.or_eq_false_iff,
    Bool.and_eq_false_iff, decide_eq_false_iff_not, and_true]
  omega

theorem not_nameStart_of_digit {c : Char} (digit : c.isDigit) : ¬isNameStart c := fun start =>
  absurd (Nat.le_trans (nameStart_bounds start).1 (digit_bounds digit).2) (by decide)

theorem inTag_quote {quote : Char} (quotes : quote = '\'' ∨ quote = '"') (rest : List Char) :
    inTag (quote :: rest) = (quotedTail quote rest).map fun tail => ⟨some .string, quote :: tail⟩ := by
  have ordinary : Text.isBlank quote = false ∧ quote ≠ '$' ∧ ¬isNameStart quote ∧ ¬quote.isDigit := by
    rcases quotes with rfl | rfl <;> decide
  obtain ⟨unblank, plain, unnamed, uncounted⟩ := ordinary
  rw [inTag, unblank, if_neg Bool.false_ne_true, if_neg plain, if_neg unnamed, if_neg uncounted, if_pos quotes]

theorem inTag_spelling (listed : kind ∈ TokenKind.punctuation ++ TokenKind.reserved) :
    inTag kind.spelling.toList = some (ofKind kind) := by
  cases kind <;> first | exact absurd listed (by decide) | rfl

theorem inText_opening (opens : kind.opensTag) : inText kind.spelling.toList = some (ofKind kind) := by
  cases kind <;> first | exact absurd opens (by decide) | rfl

-- A piece that is written as a token is read as that token and no other.
theorem first?_of_written {value : String} (written : Written region kind value text) :
    first? region text = some ⟨some kind, text⟩ ∧ Lexeme.value kind text = value := by
  cases written with
  | text any plain =>
    refine ⟨?_, rfl⟩
    cases text with
    | nil => contradiction
    | cons c rest =>
      rw [List.mem_cons, not_or] at plain
      have whole : rest.takeWhile (· != '{') = rest :=
        List.takeWhile_eq_self_iff.mpr fun d inside => bne_iff_ne.mpr fun same => plain.2 (same ▸ inside)
      rw [first?, inText]
      · rw [whole]
      · exact fun _ same _ => plain.1 same.symm
      · exact fun same => plain.1 same.symm
  | opening opens =>
    exact ⟨inText_opening opens, value_spelling (by rintro rfl; cases opens) (by rintro rfl; cases opens)⟩
  | sign listed =>
    obtain ⟨unnamed, unquoted⟩ := punctuation_plain kind listed
    exact ⟨inTag_spelling (List.mem_append_left _ listed), value_spelling unnamed unquoted⟩
  | keyword listed =>
    obtain ⟨unnamed, unquoted⟩ := reserved_plain kind listed
    exact ⟨inTag_spelling (List.mem_append_right _ listed), value_spelling unnamed unquoted⟩
  | identifier isName free =>
    refine ⟨?_, rfl⟩
    have unlisted : (TokenKind.reserved.find? fun kind => kind.spelling.toList == text) = none :=
      List.find?_eq_none.mpr fun kind listed => by simpa using free kind listed
    obtain ⟨start, inside⟩ := isName
    have found : first? .tag (_ :: _ ++ []) = some _ :=
      first?_name start inside fun _ first => absurd first (Option.not_mem_none _)
    rwa [List.append_nil, word, unlisted] at found
  | @variableName name isName =>
    refine ⟨?_, rfl⟩
    obtain ⟨start, inside⟩ := isName
    rw [first?, inTag, if_neg (by decide), if_pos rfl, variableName?, if_pos start, List.takeWhile_eq_self_iff.mpr inside]
  | number isNumber =>
    refine ⟨?_, rfl⟩
    have whole := number_eq_of_written isNumber
    obtain ⟨c, rest, rfl, digit⟩ := isNumber.head
    have plain : c ≠ '$' := by
      rintro rfl
      cases digit
    rw [first?, inTag, not_blank_of_digit digit, if_neg Bool.false_ne_true, if_neg plain,
      if_neg (not_nameStart_of_digit digit), if_pos digit, whole]
  | @string quote body quotes quotable =>
    rw [value, List.drop_succ_cons, List.drop_zero, List.dropLast_concat]
    refine ⟨?_, rfl⟩
    have single : quote ≠ '\\' := by rcases quotes with rfl | rfl <;> decide
    rw [first?, inTag_quote quotes, quotedTail_append single quotable, Option.map_some]

end Lexeme

theorem Token.Written.unique {region : Region} {kind kind' : TokenKind} {value value' : String} {text : List Char}
    (written : Written region kind value text) (written' : Written region kind' value' text) :
    kind = kind' ∧ value = value' := by
  obtain ⟨found, meant⟩ := Lexeme.first?_of_written written
  obtain ⟨found', meant'⟩ := Lexeme.first?_of_written written'
  rw [found] at found'
  cases found'
  exact ⟨rfl, meant.symm.trans meant'⟩

theorem Token.Written.isIdentifier {region : Region} {value : String} {text : List Char}
    (written : Written region .identifier value text) : Lexeme.Identifier value := by
  cases written with
  | opening opens => cases opens
  | sign listed => exact absurd listed (by decide)
  | keyword listed => exact absurd listed (by decide)
  | identifier isName free =>
    have found := (Lexeme.first?_of_written (.identifier isName free)).1
    rwa [Lexeme.Identifier, String.toList_ofList]

theorem Token.Written.isSpelled {region : Region} {kind : TokenKind} {value : String} {text : List Char}
    (written : Written region kind value text) (fixed : kind ∈ TokenKind.punctuation ++ TokenKind.reserved) :
    value = kind.spelling := by
  cases written with
  | opening | sign | keyword => rfl
  | text | identifier | variableName | number | string => exact absurd fixed (by decide)

def Token.Writable (token : Token) : Prop := ∃ region text, Written region token.kind token.value text

namespace Token.Writable

variable {token : Token} {kind : TokenKind}

theorem isIdentifier (writable : token.Writable) (named : token.kind = .identifier) : Lexeme.Identifier token.value := by
  obtain ⟨region, text, written⟩ := writable
  rw [named] at written
  exact written.isIdentifier

theorem isSpelled (writable : token.Writable) (same : token.kind = kind)
    (fixed : kind ∈ TokenKind.punctuation ++ TokenKind.reserved) : token.value = kind.spelling := by
  obtain ⟨region, text, written⟩ := writable
  rw [same] at written
  exact written.isSpelled fixed

end Token.Writable
end TypedTemplate
