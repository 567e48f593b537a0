import TypedTemplate.Proofs.Token.Halts

namespace TypedTemplate

namespace Literal

-- What is read at the start of a text is settled by any part of the text that it lies in.
def Local (read : List Char → List Char) : Prop :=
  ∀ text later, read (text ++ later) <+: text → read text = read (text ++ later)

theorem local_takeWhile (holds : Char → Bool) : Local (List.takeWhile holds) := by
  intro text later within
  rw [List.takeWhile_append] at within ⊢
  split
  · rename_i all
    rw [if_pos all] at within
    have none : later.takeWhile holds = [] := by simpa using within.length_le
    have whole : text.takeWhile holds = text := (List.takeWhile_prefix holds).eq_of_length all
    rw [none, whole, List.append_nil]
  · rfl

theorem Local.append {first second : List Char → List Char} (isLocal : Local first) (isLocal' : Local second) :
    Local fun source => first source ++ second (source.drop (first source).length) := by
  intro text later within
  have same : first text = first (text ++ later) := isLocal text later ((List.prefix_append _ _).trans within)
  dsimp only at within ⊢
  rw [← same] at within ⊢
  obtain ⟨others, split⟩ := (List.prefix_append _ _).trans within
  have left : text.drop (first text).length = others := Token.drop_eq split
  have left' : (text ++ later).drop (first text).length = others ++ later :=
    Token.drop_eq (by rw [← List.append_assoc, split])
  have rest : first text ++ second (others ++ later) <+: first text ++ others := by rwa [← left', split]
  rw [left, left', isLocal' others later ((List.prefix_append_right_inj _).mp rest)]

theorem local_fraction : Local fraction := by
  intro text later within
  cases text with
  | nil => simpa [fraction] using within
  | cons c rest =>
    by_cases point : c = '.'
    · subst point
      have digits : (rest ++ later).takeWhile Char.isDigit <+: rest := by
        cases any : (rest ++ later).takeWhile Char.isDigit with
        | nil => exact List.nil_prefix
        | cons d others => simpa [fraction, any] using within
      simp only [List.cons_append, fraction, local_takeWhile _ rest later digits]
    · have none (source : List Char) : fraction (c :: source) = [] := by simp [fraction, point]
      rw [List.cons_append, none, none]

theorem exponentSign_cons (c : Char) (rest later : List Char) :
    exponentSign (c :: rest) = exponentSign (c :: rest ++ later) := by
  unfold exponentSign
  split <;> simp_all

theorem local_exponent : Local exponent := by
  intro text later within
  cases text with
  | nil => simpa [exponent] using within
  | cons mark rest =>
    by_cases marks : mark = 'e' ∨ mark = 'E'
    · rw [List.cons_append, exponent, if_pos marks] at within ⊢
      rw [exponent, if_pos marks]
      dsimp only at within ⊢
      cases rest with
      | nil =>
        -- behind the mark there is only what lies outside, so there is no exponent
        change [] = _
        split
        · rfl
        · rename_i any
          rw [if_neg any, List.prefix_cons_inj, List.prefix_nil, List.append_eq_nil_iff] at within
          exact absurd (List.isEmpty_iff.mpr within.2) any
      | cons c others =>
        rw [← exponentSign_cons] at within ⊢
        obtain ⟨left, split⟩ := (exponentSign_reads (c :: others)).2
        generalize exponentSign (c :: others) = sign at within split ⊢
        have here : (c :: others).drop sign.length = left := Token.drop_eq split
        have there : (c :: others ++ later).drop sign.length = left ++ later :=
          Token.drop_eq (by rw [← List.append_assoc, split])
        rw [there] at within ⊢
        rw [here]
        have digits : (left ++ later).takeWhile Char.isDigit <+: left := by
          split at within
          · rename_i none
            rw [List.isEmpty_iff.mp none]
            exact List.nil_prefix
          · rw [List.prefix_cons_inj, ← split] at within
            exact (List.prefix_append_right_inj _).mp within
        rw [local_takeWhile _ left later digits]
    · rw [List.cons_append, exponent, exponent, if_neg marks, if_neg marks]

theorem local_number : Local number := by
  have isLocal := (local_takeWhile Char.isDigit).append (local_fraction.append local_exponent)
  have same : number = _ := funext number_eq
  simp only [← Token.drop_takeWhile] at same
  rw [same]
  exact isLocal

theorem quotedTail_cut {quote : Char} {text later tail : List Char} (ordinary : quote ≠ '\\')
    (found : quotedTail quote (text ++ later) = some tail) (within : tail <+: text) :
    quotedTail quote text = some tail := by
  obtain ⟨⟨body, rfl, quotable⟩, -⟩ := quotedTail_reads found
  obtain ⟨others, rfl⟩ := within
  exact quotedTail_followed (quotedTail_append ordinary quotable) others

end Literal

namespace Lexeme

open Literal

variable {region : Region} {text later : List Char} {lexeme : Lexeme}

theorem takeWhile_cut {holds : Char → Bool} {c : Char} {rest : List Char}
    (within : c :: (rest ++ later).takeWhile holds <+: c :: rest) :
    (rest ++ later).takeWhile holds = rest.takeWhile holds :=
  (local_takeWhile holds rest later ((List.prefix_cons_inj c).mp within)).symm

theorem variableName?_cut (found : variableName? (text ++ later) = some lexeme) (within : lexeme.text <+: '$' :: text) :
    variableName? text = some lexeme := by
  cases text with
  | nil =>
    unfold variableName? at found
    split at found
    · split at found
      · cases found
        simpa using within.length_le
      · cases found
    · cases found
  | cons c rest =>
    rw [List.cons_append, variableName?] at found
    rw [variableName?]
    split at found
    · rename_i start
      cases found
      rw [if_pos start, takeWhile_cut ((List.prefix_cons_inj '$').mp within)]
    · cases found

theorem punctuation?_cut (found : punctuation? (text ++ later) = some lexeme) (within : lexeme.text <+: text) :
    punctuation? text = some lexeme := by
  obtain ⟨kind, first, rfl⟩ := Option.map_eq_some_iff.mp found
  obtain ⟨-, earlier, others, split, unmatched⟩ := List.find?_eq_some_iff_append.mp first
  have here : TokenKind.punctuation.find? (fun kind => kind.spelling.toList.isPrefixOf text) = some kind := by
    refine List.find?_eq_some_iff_append.mpr ⟨List.isPrefixOf_iff_prefix.mpr within, earlier, others, split, ?_⟩
    intro other listed
    have apart := unmatched other listed
    rw [Bool.not_eq_true', ← Bool.not_eq_true, List.isPrefixOf_iff_prefix] at apart ⊢
    exact fun starts => apart (starts.trans (List.prefix_append text later))
  rw [punctuation?, here]
  rfl

theorem inText_cons (c : Char) (rest : List Char) : inText (c :: rest) =
    if c = '{' then some (ofKind (bif ['/'].isPrefixOf rest then .closeTagOpen else .openCurly))
    else some ⟨some .text, c :: rest.takeWhile (· != '{')⟩ := by
  split
  · rename_i brace
    subst brace
    cases rest with
    | nil => rfl
    | cons d others =>
      by_cases slash : d = '/'
      · subst slash
        rfl
      · have apart : ['/'].isPrefixOf (d :: others) = false := by simp [List.isPrefixOf, Ne.symm slash]
        rw [apart, Token.inText_openCurly others slash]
        rfl
  · rename_i other
    rw [inText]
    · exact fun _ same _ => other same
    · exact other

theorem inText_cut (found : inText (text ++ later) = some lexeme) (within : lexeme.text <+: text) :
    inText text = some lexeme := by
  cases text with
  | nil => exact absurd (List.prefix_nil.mp within) (@text_ne_nil .text _ _ found)
  | cons c rest =>
    rw [List.cons_append, inText_cons] at found
    rw [inText_cons]
    split at found
    · rename_i brace
      subst brace
      rw [if_pos rfl, ← found]
      cases rest with
      | nil =>
        cases slash : ['/'].isPrefixOf later with
        | false => simp [slash]
        | true =>
          rw [List.nil_append, slash] at found
          cases found
          exact absurd within.length_le (by decide)
      | cons d others => simp [List.isPrefixOf]
    · rename_i other
      cases found
      rw [if_neg other, takeWhile_cut within]

theorem inTag_cut (found : inTag (text ++ later) = some lexeme) (within : lexeme.text <+: text) :
    inTag text = some lexeme := by
  cases text with
  | nil => exact absurd (List.prefix_nil.mp within) (@text_ne_nil .tag _ _ found)
  | cons c rest =>
    rw [List.cons_append, inTag] at found
    rw [inTag]
    split at found
    · rename_i blank
      cases found
      rw [if_pos blank, takeWhile_cut within]
    rename_i solid
    rw [if_neg solid]
    split at found
    · rename_i dollar
      subst dollar
      rw [if_pos rfl, variableName?_cut found within]
    rename_i dollar
    rw [if_neg dollar]
    split at found
    · rename_i start
      cases found
      rw [word_text] at within
      rw [if_pos start, takeWhile_cut within]
    rename_i start
    rw [if_neg start]
    split at found
    · rename_i digit
      cases found
      rw [if_pos digit, local_number (c :: rest) later within, List.cons_append]
    rename_i digit
    rw [if_neg digit]
    split at found
    · rename_i quotes
      obtain ⟨tail, quoted, rfl⟩ := Option.map_eq_some_iff.mp found
      have ordinary : c ≠ '\\' := by rcases quotes with rfl | rfl <;> decide
      rw [if_pos quotes, quotedTail_cut ordinary quoted ((List.prefix_cons_inj c).mp within), Option.map_some]
    · rename_i quotes
      rw [if_neg quotes]
      exact punctuation?_cut found within

-- What is read somewhere is read there all the same when the source stops behind it.
theorem first?_cut (found : first? region (text ++ later) = some lexeme) (within : lexeme.text <+: text) :
    first? region text = some lexeme := by
  cases region with
  | text => exact inText_cut found within
  | tag => exact inTag_cut found within

end Lexeme

open Lexeme (first?)
open Source (byteLength)

structure Scanner where
  region : Region
  offset : Nat
  rest : List Char

def Scanner.start (source : String) : Scanner := ⟨.text, 0, source.toList⟩

namespace Token

-- From one place in a source to a later one, with the tokens that lie between.
inductive Scans (file : String) : Scanner → List Token → Scanner → Prop
  | stay {scanner : Scanner} : Scans file scanner [] scanner
  | blank {region : Region} {offset : Nat} {text later : List Char} {tokens : List Token} {last : Scanner}
    (found : first? region (text ++ later) = some ⟨none, text⟩)
    (goesOn : Scans file ⟨region, offset + byteLength text, later⟩ tokens last) :
    Scans file ⟨region, offset, text ++ later⟩ tokens last
  | token {region : Region} {offset : Nat} {kind : TokenKind} {text later : List Char} {tokens : List Token} {last : Scanner}
    (found : first? region (text ++ later) = some ⟨some kind, text⟩)
    (goesOn : Scans file ⟨region.after kind, offset + byteLength text, later⟩ tokens last) :
    Scans file ⟨region, offset, text ++ later⟩
      (⟨kind, Lexeme.value kind text, ⟨.behind offset file, .behind (offset + byteLength text) file⟩⟩ :: tokens) last

variable {file : String} {region region' : Region} {offset stop : Nat} {source text later rest : List Char}
  {tokens : List Token} {first last : Scanner}

theorem ofChars_passed (found : first? region (text ++ later) = some ⟨none, text⟩) :
    ofChars file region offset (text ++ later) = ofChars file region (offset + byteLength text) later := by
  have taken := Lexeme.text_ne_nil found
  match text, taken with
  | c :: others, _ =>
    rw [List.cons_append] at found ⊢
    rw [ofChars]
    split
    · rename_i none
      rw [none] at found
      cases found
    · rename_i lexeme some
      rw [found] at some
      cases some
      simp only [← List.cons_append, List.drop_left]

theorem ofChars_stuck {c : Char} (stuck : first? region (c :: rest) = none) : ofChars file region offset (c :: rest) =
    .error ⟨.unrecognisedToken (.singleton c), .behind offset file, none⟩ := by
  rw [ofChars]
  split
  · rfl
  · rename_i lexeme some
    rw [stuck] at some
    cases some

theorem Scans.reading (scans : Scans file first tokens last) : ofChars file first.region first.offset first.rest =
    (ofChars file last.region last.offset last.rest).map (tokens ++ ·) := by
  induction scans with
  | stay => exact (map_nil_append _).symm
  | blank found _ ih => rw [ofChars_passed found, ih]
  | token found _ ih => rw [ofChars_token found, ih, map_map_append]; rfl

theorem Scans.regionAfter_eq (scans : Scans file first tokens last) : last.region = regionAfter first.region tokens := by
  induction scans with
  | stay => rfl
  | blank _ _ ih => exact ih
  | token _ _ ih => exact ih

-- Up to any place that is reached on the way, the source is read alone as it is read in the whole.
theorem Scans.cut (scans : Scans file first tokens last) : ∃ front, first.rest = front ++ last.rest ∧
    last.offset = first.offset + byteLength front ∧
    Scans file ⟨first.region, first.offset, front⟩ tokens ⟨last.region, last.offset, []⟩ := by
  induction scans with
  | stay => exact ⟨[], rfl, rfl, .stay⟩
  | @blank region offset text later tokens last found _ ih =>
    obtain ⟨front, split, reached, scans⟩ := ih
    dsimp only at split reached
    subst split
    rw [← List.append_assoc] at found ⊢
    refine ⟨text ++ front, rfl, ?_, .blank (Lexeme.first?_cut found (List.prefix_append _ _)) scans⟩
    rw [reached, Source.byteLength_append, Nat.add_assoc]
  | @token region offset kind text later tokens last found _ ih =>
    obtain ⟨front, split, reached, scans⟩ := ih
    dsimp only at split reached
    subst split
    rw [← List.append_assoc] at found ⊢
    refine ⟨text ++ front, rfl, ?_, .token (Lexeme.first?_cut found (List.prefix_append _ _)) scans⟩
    rw [reached, Source.byteLength_append, Nat.add_assoc]

theorem scans_on (file : String) (region : Region) (offset : Nat) (rest : List Char) : ∃ tokens last,
    Scans file ⟨region, offset, rest⟩ tokens last ∧ ∀ c after, last.rest = c :: after → first? last.region last.rest = none := by
  fun_induction ofChars file region offset rest with
  | case1 region offset =>
    refine ⟨[], _, .stay, fun c after any => ?_⟩
    cases any
  | case2 region offset c rest none => exact ⟨[], _, .stay, fun _ _ _ => none⟩
  | case3 region offset c rest lexeme found stop remaining =>
    rename_i blanks ih
    obtain ⟨later, split⟩ := (Lexeme.first?_reads found).2
    obtain ⟨tokens, last, scans, halts⟩ := ih
    obtain ⟨kind, text⟩ := lexeme
    cases blanks
    rw [show remaining = later from drop_eq split] at scans
    rw [← split] at found ⊢
    exact ⟨tokens, last, .blank found scans, halts⟩
  | case4 region offset c rest lexeme found stop remaining kind =>
    rename_i named ih
    obtain ⟨later, split⟩ := (Lexeme.first?_reads found).2
    obtain ⟨tokens, last, scans, halts⟩ := ih
    obtain ⟨kind, text⟩ := lexeme
    cases named
    rw [show remaining = later from drop_eq split] at scans
    rw [← split] at found ⊢
    exact ⟨_, last, .token found scans, halts⟩

theorem scans_of_ok (read : ofChars file region offset source = .ok tokens) : ∃ stream last,
    Scans file ⟨region, offset, source⟩ stream ⟨last, offset + byteLength source, []⟩ ∧
      tokens = stream ++ [atEnd (.behind (offset + byteLength source) file)] := by
  obtain ⟨stream, ⟨region', stop, rest⟩, scans, halts⟩ := scans_on file region offset source
  obtain ⟨front, split, reached, -⟩ := scans.cut
  have given := scans.reading
  dsimp only at split reached given
  rw [read] at given
  cases rest with
  | cons c after =>
    rw [ofChars_stuck (halts c after rfl)] at given
    cases given
  | nil =>
    rw [List.append_nil] at split
    subst split reached
    rw [ofChars] at given
    cases given
    exact ⟨stream, region', scans, rfl⟩

theorem Scans.writable (scans : Scans file first tokens last) : ∀ token ∈ tokens, token.Writable := by
  induction scans with
  | stay => exact nofun
  | blank _ _ ih => exact ih
  | token found _ ih =>
    cases (Lexeme.first?_reads found).1 with
    | token written => exact List.forall_mem_cons.mpr ⟨⟨_, _, written⟩, ih⟩

theorem writable_of_tokenize {source : String} {token : Token} (read : tokenize source file = .ok tokens)
    (among : token ∈ tokens) (inner : token.kind ≠ .eof) : token.Writable := by
  obtain ⟨stream, region, scans, rfl⟩ := scans_of_ok read
  rcases List.mem_append.mp among with found | ending
  · exact scans.writable token found
  · exact absurd (congrArg Token.kind (List.mem_singleton.mp ending)) inner

end Token
end TypedTemplate
