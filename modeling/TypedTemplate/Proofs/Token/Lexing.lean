import Mathlib.Data.List.TakeWhile
import TypedTemplate.Proofs.Token.Word
import TypedTemplate.Token.Stream

namespace TypedTemplate
namespace Token

open Lexeme (first?)

variable {file : String} {region : Region} {offset : Nat} {source rest : List Char} {kind : TokenKind} {text : List Char}

theorem map_map_append (outcome : Except Diagnostic (List Token)) (earlier later : List Token) :
    (outcome.map (later ++ ·)).map (earlier ++ ·) = outcome.map (earlier ++ later ++ ·) := by
  cases outcome with
  | error diagnostic => rfl
  | ok tokens => exact congrArg Except.ok (List.append_assoc ..).symm

theorem map_nil_append (outcome : Except Diagnostic (List Token)) : outcome.map ([] ++ ·) = outcome := by
  cases outcome <;> rfl

theorem ofChars_token (found : first? region (text ++ rest) = some ⟨some kind, text⟩) :
    ofChars file region offset (text ++ rest) =
      (ofChars file (region.after kind) (offset + Source.byteLength text) rest).map
        ([⟨kind, Lexeme.value kind text, ⟨.behind offset file, .behind (offset + Source.byteLength text) file⟩⟩] ++ ·) := by
  have taken := Lexeme.text_ne_nil found
  match text, taken with
  | c :: others, _ =>
    rw [List.cons_append] at found ⊢
    rw [ofChars]
    split
    · rename_i none
      rw [none] at found
      cases found
    · rename_i lexeme some
      rw [found] at some
      cases some
      simp only [← List.cons_append, List.drop_left]
      rfl

theorem drop_takeWhile (holds : Char → Bool) (source : List Char) :
    source.drop (source.takeWhile holds).length = source.dropWhile holds := by
  have dropped : (source.takeWhile holds ++ source.dropWhile holds).drop (source.takeWhile holds).length =
    source.dropWhile holds := List.drop_left
  rwa [List.takeWhile_append_dropWhile] at dropped

theorem ofChars_blanks {c : Char} (blank : Text.isBlank c) : ofChars file .tag offset (c :: rest) =
    ofChars file .tag (offset + Source.byteLength (c :: rest.takeWhile Text.isBlank)) (rest.dropWhile Text.isBlank) := by
  have found : first? .tag (c :: rest) = some ⟨none, c :: rest.takeWhile Text.isBlank⟩ := by
    rw [first?, Lexeme.inTag, if_pos blank]
  rw [ofChars]
  split
  · rename_i none
    rw [found] at none
    cases none
  · rename_i lexeme some
    rw [found] at some
    cases some
    simp only [List.length_cons, List.drop_succ_cons]
    rw [← drop_takeWhile]

theorem ofChars_blank {c : Char} (blank : Text.isBlank c) : ofChars file .tag offset (c :: rest) =
    ofChars file .tag (offset + Source.byteLength [c]) rest := by
  rw [ofChars_blanks blank]
  cases rest with
  | nil => rfl
  | cons d others =>
    by_cases more : Text.isBlank d
    · rw [List.takeWhile_cons_of_pos more, List.dropWhile_cons_of_pos more, ofChars_blanks more]
      congr 1
      exact (Nat.add_assoc ..).symm
    · rw [List.takeWhile_cons_of_neg more, List.dropWhile_cons_of_neg more]

-- Inside a tag these characters give those words, if that is what comes after them.
def Lexes (source : List Char) (words : List Word) (rest : List Char) : Prop :=
  ∀ file offset, ∃ tokens stop, tokens.map word = words ∧
    ofChars file .tag offset (source ++ rest) = (ofChars file .tag stop rest).map (tokens ++ ·)

namespace Lexes

variable {source' : List Char} {words words' : List Word}

theorem nil : Lexes [] [] rest := fun _ offset => ⟨[], offset, rfl, (map_nil_append _).symm⟩

theorem append (first : Lexes source words (source' ++ rest)) (second : Lexes source' words' rest) :
    Lexes (source ++ source') (words ++ words') rest := by
  intro file offset
  obtain ⟨tokens, middle, same, given⟩ := first file offset
  obtain ⟨tokens', stop, same', given'⟩ := second file middle
  refine ⟨tokens ++ tokens', stop, by rw [List.map_append, same, same'], ?_⟩
  rw [List.append_assoc, given, given', map_map_append]

theorem token (found : first? .tag (text ++ rest) = some ⟨some kind, text⟩) (inside : Region.tag.after kind = .tag) :
    Lexes text [(kind, Lexeme.value kind text)] rest := by
  intro file offset
  refine ⟨[⟨kind, Lexeme.value kind text, ⟨.behind offset file, .behind (offset + Source.byteLength text) file⟩⟩],
    offset + Source.byteLength text, rfl, ?_⟩
  rw [ofChars_token found, inside]

theorem sign {c : Char} (found : Lexeme.inTag (c :: rest) = some (.ofKind kind)) (spelled : kind.spelling.toList = [c])
    (inside : Region.tag.after kind = .tag) (plain : Lexeme.value kind [c] = kind.spelling) :
    Lexes [c] [kind.word] rest := by
  rw [Lexeme.ofKind, spelled] at found
  have lexes : Lexes [c] [(kind, Lexeme.value kind [c])] rest := token found inside
  rwa [plain] at lexes

theorem space : Lexes [' '] [] rest := by
  intro file offset
  refine ⟨[], offset + Source.byteLength [' '], rfl, ?_⟩
  rw [map_nil_append]
  exact ofChars_blank (by decide)

end Lexes

theorem inText_openCurly {c : Char} (rest : List Char) (other : c ≠ '/') :
    Lexeme.inText ('{' :: c :: rest) = some (.ofKind .openCurly) :=
  Lexeme.inText.eq_3 (c :: rest) fun _ slash => other (List.cons.inj slash).1

theorem tokenize_tag {source : String} {words : List Word} (opens : ['/'].isPrefixOf source.toList = false)
    (lexes : Lexes source.toList words ['}']) (file : String) : ∃ opening tokens closing ending,
      tokenize ("\x7b" ++ source ++ "\x7d") file = .ok (opening :: tokens ++ [closing, ending]) ∧
        opening.word = TokenKind.openCurly.word ∧ tokens.map word = words ∧
        closing.word = TokenKind.closeCurly.word ∧ ending.kind = .eof := by
  have characters : ("\x7b" ++ source ++ "\x7d").toList = ['{'] ++ (source.toList ++ ['}']) := by
    rw [String.toList_append, String.toList_append, List.append_assoc]
    rfl
  have found : first? .text (['{'] ++ (source.toList ++ ['}'])) = some ⟨some .openCurly, ['{']⟩ := by
    cases spelled : source.toList with
    | nil => rfl
    | cons c rest =>
      refine inText_openCurly (rest ++ ['}']) ?_
      rintro rfl
      rw [spelled] at opens
      cases opens
  have closed (offset : Nat) : ∃ closing ending, ofChars file .tag offset ['}'] = .ok [closing, ending] ∧
      closing.word = TokenKind.closeCurly.word ∧ ending.kind = .eof := by
    have last : first? .tag (['}'] ++ []) = some ⟨some .closeCurly, ['}']⟩ := rfl
    have given : ofChars file .tag offset (['}'] ++ []) = _ := ofChars_token last
    rw [List.append_nil, ofChars] at given
    exact ⟨_, _, given, rfl, rfl⟩
  obtain ⟨tokens, stop, same, given⟩ := lexes file (0 + Source.byteLength ['{'])
  obtain ⟨closing, ending, last, closes, ends⟩ := closed stop
  refine ⟨⟨.openCurly, "\x7b", ⟨.behind 0 file, .behind (0 + Source.byteLength ['{']) file⟩⟩, tokens, closing, ending, ?_, rfl, same,
    closes, ends⟩
  rw [tokenize, characters, ofChars_token found]
  show (ofChars file .tag (0 + Source.byteLength ['{']) (source.toList ++ ['}'])).map _ = _
  rw [given, last]
  rfl

end Token

namespace Lexeme

open Literal (isNameStart isNameChar)

variable {rest : List Char} {c : Char} {others : List Char}

def Identifier (name : String) : Prop := first? .tag name.toList = some ⟨some .identifier, name.toList⟩

theorem nameStart_bounds (start : isNameStart c) : 65 ≤ c.toNat ∧ c.toNat ≤ 122 := by
  rw [isNameStart, Bool.or_eq_true, beq_iff_eq] at start
  rcases start with letter | rfl
  · have letter : (decide (65 ≤ c.val ∧ c.val ≤ 90) || decide (97 ≤ c.val) && decide (c.val ≤ 122)) = true := letter
    simp only [Bool.or_eq_true, Bool.and_eq_true, decide_eq_true_eq, UInt32.le_iff_toNat_le] at letter
    have code : c.toNat = c.val.toNat := rfl
    rcases letter with ⟨low, high⟩ | ⟨low, high⟩
    · exact ⟨code ▸ low, Nat.le_trans (code ▸ high) (by decide)⟩
    · exact ⟨Nat.le_trans (by decide) (code ▸ low), code ▸ high⟩
  · decide

theorem not_blank_of_nameStart (start : isNameStart c) : Text.isBlank c = false := by
  obtain ⟨low, high⟩ := nameStart_bounds start
  simp only [Text.isBlank, Text.Ranges.contains, Text.blanks, List.any_cons, List.any_nil, Bool.or_eq_false_iff,
    Bool.and_eq_false_iff, decide_eq_false_iff_not, and_true]
  omega

theorem inTag_name (start : isNameStart c) : inTag (c :: rest) = some (word (c :: rest.takeWhile isNameChar)) := by
  have plain : c ≠ '$' := by
    rintro rfl
    cases start
  rw [inTag, not_blank_of_nameStart start, if_neg Bool.false_ne_true, if_neg plain, if_pos start]

theorem word_text (text : List Char) : (word text).text = text := by
  unfold word
  split <;> rfl

theorem nameStart_of_identifier {text : List Char} (found : inTag (c :: rest) = some ⟨some .identifier, text⟩) :
    isNameStart c := by
  rw [inTag] at found
  split at found
  · cases found
  split at found
  · unfold variableName? at found
    split at found
    · split at found <;> cases found
    · cases found
  split at found
  · assumption
  split at found
  · cases found
  split at found
  · obtain ⟨tail, _, same⟩ := Option.map_eq_some_iff.mp found
    cases same
  · obtain ⟨kind, sign, same⟩ := Option.map_eq_some_iff.mp found
    cases same
    exact absurd (List.mem_of_find?_eq_some sign) (by decide)

theorem Identifier.chars {name : String} (identifier : Identifier name) :
    ∃ c others, name.toList = c :: others ∧ isNameStart c ∧ (∀ d ∈ others, isNameChar d) ∧
      word (c :: others) = ⟨some .identifier, c :: others⟩ := by
  unfold Identifier at identifier
  cases spelled : name.toList with
  | nil =>
    rw [spelled] at identifier
    cases identifier
  | cons c others =>
    rw [spelled, first?] at identifier
    have start := nameStart_of_identifier identifier
    rw [inTag_name start, Option.some_inj] at identifier
    have whole : others.takeWhile isNameChar = others := by
      have same := congrArg Lexeme.text identifier
      rw [word_text] at same
      exact (List.cons.inj same).2
    rw [whole] at identifier
    exact ⟨c, others, rfl, start, List.takeWhile_eq_self_iff.mp whole, identifier⟩

theorem first?_name (start : isNameStart c) (inside : ∀ d ∈ others, isNameChar d)
    (apart : ∀ d ∈ rest.head?, isNameChar d = false) : first? .tag (c :: others ++ rest) = some (word (c :: others)) := by
  have stops : rest.takeWhile isNameChar = [] := by
    cases rest with
    | nil => rfl
    | cons d later => rw [List.takeWhile_cons_of_neg (by simp [apart d rfl])]
  rw [first?, List.cons_append, inTag_name start, List.takeWhile_append_of_pos inside, stops, List.append_nil]

theorem Identifier.lexes {name : String} (identifier : Identifier name) (apart : ∀ d ∈ rest.head?, isNameChar d = false) :
    Token.Lexes name.toList [(.identifier, name)] rest := by
  obtain ⟨c, others, spelled, start, inside, same⟩ := identifier.chars
  have found : first? .tag (name.toList ++ rest) = some ⟨some .identifier, name.toList⟩ := by
    rw [spelled, first?_name start inside apart, same]
  have value : value .identifier name.toList = name := String.ofList_toList
  have lexes := Token.Lexes.token found rfl
  rwa [value] at lexes

theorem inTag_less (rest : List Char) :
    inTag ('<' :: rest) = some (ofKind (bif ['='].isPrefixOf rest then .lessEquals else .less)) := by
  show (bif ['='].isPrefixOf rest then some TokenKind.lessEquals else some .less).map ofKind = _
  cases ['='].isPrefixOf rest <;> rfl

theorem inTag_greater (rest : List Char) :
    inTag ('>' :: rest) = some (ofKind (bif ['='].isPrefixOf rest then .greaterEquals else .greater)) := by
  show (bif ['='].isPrefixOf rest then some TokenKind.greaterEquals else some .greater).map ofKind = _
  cases ['='].isPrefixOf rest <;> rfl

theorem inTag_question (rest : List Char) : inTag ('?' :: rest) = some (ofKind
    (bif ['.'].isPrefixOf rest then .questionDot
      else bif ['['].isPrefixOf rest then .questionBracket
      else bif [':'].isPrefixOf rest then .elvis else .question)) := by
  show (bif ['.'].isPrefixOf rest then some TokenKind.questionDot
      else bif ['['].isPrefixOf rest then some .questionBracket
      else bif [':'].isPrefixOf rest then some .elvis else some .question).map ofKind = _
  cases ['.'].isPrefixOf rest
  · cases ['['].isPrefixOf rest
    · cases [':'].isPrefixOf rest <;> rfl
    · rfl
  · rfl

end Lexeme
end TypedTemplate
