import TypedTemplate.Proofs.Token.Lexing
import TypedTemplate.Proofs.TypeExpr.Write

namespace TypedTemplate.TypeExpr

open Token (Lexes)
open Lexeme (Identifier)

-- What may come after an annotation or a part of one.
def Closes (rest : List Char) : Prop := ∃ c tail, rest = c :: tail ∧ c ∈ ['>', ',', ']', '|', '}']

theorem Closes.append {source : List Char} (closes : Closes source) (rest : List Char) : Closes (source ++ rest) := by
  obtain ⟨c, tail, rfl, listed⟩ := closes
  exact ⟨c, tail ++ rest, rfl, listed⟩

def Opens (source : List Char) : Prop :=
  ∃ c tail, source = c :: tail ∧ (Literal.isNameStart c ∨ c = '?' ∨ c = '[')

theorem Opens.append {source : List Char} (opens : Opens source) (rest : List Char) : Opens (source ++ rest) := by
  obtain ⟨c, tail, rfl, start⟩ := opens
  exact ⟨c, tail ++ rest, rfl, start⟩

theorem Opens.ne {source : List Char} (opens : Opens source) {c : Char}
    (strange : Literal.isNameStart c = false ∧ c ≠ '?' ∧ c ≠ '[') : [c].isPrefixOf source = false := by
  obtain ⟨d, tail, rfl, start⟩ := opens
  have differ : c ≠ d := by
    rintro rfl
    rcases start with name | sign | bracket
    · rw [strange.1] at name
      cases name
    · exact strange.2.1 sign
    · exact strange.2.2 bracket
  rw [List.isPrefixOf, beq_eq_false_iff_ne.mpr differ]
  rfl

variable {rest : List Char}

theorem Closes.apart (closes : Closes rest) : ∀ d ∈ rest.head?, Literal.isNameChar d = false := by
  obtain ⟨c, tail, rfl, listed⟩ := closes
  intro d here
  cases here
  simp only [List.mem_cons, List.not_mem_nil, or_false] at listed
  rcases listed with rfl | rfl | rfl | rfl | rfl <;> rfl

theorem Closes.ne (closes : Closes rest) {c : Char} (strange : c ∉ ['>', ',', ']', '|', '}']) :
    [c].isPrefixOf rest = false := by
  obtain ⟨d, tail, rfl, listed⟩ := closes
  have differ : c ≠ d := by
    rintro rfl
    exact strange listed
  rw [List.isPrefixOf, beq_eq_false_iff_ne.mpr differ]
  rfl

mutual
def Lexical : TypeExpr → Prop
  | named name _ => name = "?" ∨ name = "null" ∨ Identifier name
  | generic name args _ => Identifier name ∧ AllLexical args
  | record fields _ => FieldsLexical fields
  | union members => AllLexical members

def AllLexical : List TypeExpr → Prop
  | [] => True
  | typeExpr :: rest => typeExpr.Lexical ∧ AllLexical rest

def FieldsLexical : List (String × TypeExpr) → Prop
  | [] => True
  | (name, type) :: rest => Identifier name ∧ type.Lexical ∧ FieldsLexical rest
end

theorem allLexical_iff {typeExprs : List TypeExpr} : AllLexical typeExprs ↔ ∀ typeExpr ∈ typeExprs, typeExpr.Lexical := by
  induction typeExprs with
  | nil => exact iff_of_true trivial nofun
  | cons typeExpr rest ih => rw [AllLexical, List.forall_mem_cons, ih]

theorem fieldsLexical_iff {fields : List (String × TypeExpr)} :
    FieldsLexical fields ↔ ∀ field ∈ fields, Identifier field.1 ∧ field.2.Lexical := by
  induction fields with
  | nil => exact iff_of_true trivial nofun
  | cons field rest ih => rw [FieldsLexical, List.forall_mem_cons, ih, and_assoc]

theorem nameWord_of_identifier {name : String} (identifier : Identifier name) : nameWord name = (.identifier, name) := by
  have sign : name ≠ "?" := by
    rintro rfl
    have other : Lexeme.first? .tag "?".toList = some (.ofKind .question) := rfl
    rw [Identifier, other] at identifier
    cases identifier
  have null : name ≠ "null" := by
    rintro rfl
    have other : Lexeme.first? .tag "null".toList = some (.ofKind .nullWord) := rfl
    rw [Identifier, other] at identifier
    cases identifier
  rw [nameWord, if_neg sign, if_neg null]

theorem named_lexes {name : String} (lexical : name = "?" ∨ name = "null" ∨ Identifier name) (closes : Closes rest) :
    Lexes name.toList [nameWord name] rest := by
  rcases lexical with rfl | rfl | identifier
  · have found : Lexeme.inTag ('?' :: rest) = some (.ofKind .question) := by
      rw [Lexeme.inTag_question, closes.ne (by decide), closes.ne (by decide), closes.ne (by decide)]
      rfl
    exact Lexes.sign found rfl rfl rfl
  · refine Lexes.token ?_ rfl
    exact Lexeme.first?_name rfl (List.all_eq_true.mp rfl) closes.apart
  · rw [nameWord_of_identifier identifier]
    exact identifier.lexes closes.apart

def Separates (separator : List Char) (word : Word) : Prop := Closes separator ∧ ∀ rest, Lexes separator [word] rest

theorem comma_separates : Separates [',', ' '] TokenKind.comma.word := by
  refine ⟨⟨',', [' '], rfl, by decide⟩, fun rest => ?_⟩
  have lexes : Lexes [','] [TokenKind.comma.word] ([' '] ++ rest) := Lexes.sign rfl rfl rfl rfl
  exact lexes.append Lexes.space

theorem pipe_separates : Separates ['|'] TokenKind.pipe.word :=
  ⟨⟨'|', [], rfl, by decide⟩, fun _ => Lexes.sign rfl rfl rfl rfl⟩

theorem toList_intercalate (separator first : String) (rest : List String) :
    (separator.intercalate (first :: rest)).toList =
      first.toList ++ rest.flatMap fun text => separator.toList ++ text.toList := by
  rw [String.toList_intercalate]
  induction rest generalizing first with
  | nil => simp
  | cons second rest ih => simp_all

theorem identifier_opens {name : String} (identifier : Identifier name) : Opens name.toList := by
  obtain ⟨c, others, spelled, start, _⟩ := identifier.chars
  exact ⟨c, others, spelled, .inl start⟩

theorem text_opens : ∀ typeExpr : TypeExpr, typeExpr.Proper → typeExpr.Lexical → Opens typeExpr.text.toList
  | named name position, _, lexical => by
    rw [text]
    rcases lexical with rfl | rfl | identifier
    · exact ⟨'?', [], rfl, .inr (.inl rfl)⟩
    · exact ⟨'n', ['u', 'l', 'l'], rfl, .inl rfl⟩
    · exact identifier_opens identifier
  | generic name args position, _, lexical => by
    rw [text, String.toList_append, String.toList_append, String.toList_append, List.append_assoc, List.append_assoc]
    exact (identifier_opens lexical.1).append _
  | record fields position, _, _ => by
    rw [text, String.toList_append, String.toList_append]
    exact ⟨'[', _, rfl, .inr (.inr rfl)⟩
  | union [], proper, _ => absurd proper.1 (by decide)
  | union (first :: rest), proper, lexical => by
    rw [text, texts, toList_intercalate]
    exact (text_opens first proper.2.2.1 lexical.1).append _

theorem greater_lexes (closes : Closes rest) : Lexes ['>'] [TokenKind.greater.word] rest := by
  have found : Lexeme.inTag ('>' :: rest) = some (.ofKind .greater) := by
    rw [Lexeme.inTag_greater, closes.ne (by decide)]
    rfl
  exact Lexes.sign found rfl rfl rfl

theorem less_lexes (opens : Opens rest) : Lexes ['<'] [TokenKind.less.word] rest := by
  have found : Lexeme.inTag ('<' :: rest) = some (.ofKind .less) := by
    rw [Lexeme.inTag_less, opens.ne ⟨rfl, by decide, by decide⟩]
    rfl
  exact Lexes.sign found rfl rfl rfl

theorem openBracket_lexes : Lexes ['['] [TokenKind.openBracket.word] rest := Lexes.sign rfl rfl rfl rfl

theorem closeBracket_lexes : Lexes [']'] [TokenKind.closeBracket.word] rest := Lexes.sign rfl rfl rfl rfl

theorem colon_lexes : Lexes [':', ' '] [TokenKind.colon.word] rest := by
  have lexes : Lexes [':'] [TokenKind.colon.word] ([' '] ++ rest) := Lexes.sign rfl rfl rfl rfl
  exact lexes.append Lexes.space

theorem closes_of {c : Char} (listed : c ∈ ['>', ',', ']', '|', '}']) (tail : List Char) : Closes (c :: tail) :=
  ⟨c, tail, rfl, listed⟩

def Gives (source : List Char) (words : List Word) : Prop := ∀ rest : List Char, Closes rest → Lexes source words rest

def following (separator : List Char) (texts : List String) : List Char :=
  texts.flatMap fun text => separator ++ text.toList

theorem closes_following {separator : List Char} (closing : Closes separator) (texts : List String) (closes : Closes rest) :
    Closes (following separator texts ++ rest) := by
  cases texts with
  | nil => exact closes
  | cons text others =>
    rw [following, List.flatMap_cons, List.append_assoc, List.append_assoc]
    exact closing.append _

theorem Gives.followed {source separator : List Char} {words words' : List Word} {texts : List String}
    (first : Gives source words) (closing : Closes separator) (others : Gives (following separator texts) words') :
    Gives (source ++ following separator texts) (words ++ words') := fun rest closes =>
  (first _ (closes_following closing texts closes)).append (others rest closes)

theorem following_cons {text : String} {separator : List Char} {word : Word} {words words' : List Word}
    {texts : List String} (separates : Separates separator word) (first : Gives text.toList words)
    (others : Gives (following separator texts) words') :
    Gives (following separator (text :: texts)) (word :: (words ++ words')) := by
  intro rest closes
  rw [following, List.flatMap_cons, List.append_assoc]
  exact (separates.2 _).append (first.followed separates.1 others rest closes)

theorem generic_gives {first : TypeExpr} {args : List TypeExpr} {name : String} (identifier : Identifier name)
    (opens : Opens first.text.toList) (head : Gives first.text.toList first.write)
    (others : Gives (following [',', ' '] (texts args)) (writeAfter TokenKind.comma.word args)) (position : Position) :
    Gives (generic name (first :: args) position).text.toList (generic name (first :: args) position).write := by
  intro rest closes
  have source : (generic name (first :: args) position).text.toList =
      name.toList ++ (['<'] ++ (first.text.toList ++ (following [',', ' '] (texts args) ++ ['>']))) := by
    rw [text, texts, String.toList_append, String.toList_append, String.toList_append, toList_intercalate]
    simp [following]
  have closing : Closes (['>'] ++ rest) := closes_of (by decide) rest
  have inside := (others _ closing).append (greater_lexes closes)
  have after := closes_following comma_separates.1 (texts args) closing
  rw [← List.append_assoc] at after
  rw [source, write]
  refine (identifier.lexes fun d here => ?_).append ((less_lexes ?_).append ((head _ after).append inside))
  · cases here
    rfl
  · rw [List.append_assoc]
    exact opens.append _

theorem field_gives {name : String} (identifier : Identifier name) {type : TypeExpr}
    (head : Gives type.text.toList type.write) :
    Gives (name ++ ": " ++ type.text).toList ((.identifier, name) :: TokenKind.colon.word :: type.write) := by
  intro rest closes
  rw [String.toList_append, String.toList_append, List.append_assoc]
  refine (identifier.lexes fun d here => ?_).append (colon_lexes.append (head rest closes))
  cases here
  rfl

theorem record_gives {fields : List (String × TypeExpr)} {name : String} {type : TypeExpr} (identifier : Identifier name)
    (head : Gives type.text.toList type.write)
    (others : Gives (following [',', ' '] (fieldTexts fields)) (writeFields fields)) (position : Position) :
    Gives (record ((name, type) :: fields) position).text.toList (record ((name, type) :: fields) position).write := by
  intro rest closes
  have source : (record ((name, type) :: fields) position).text.toList =
      ['['] ++ ((name ++ ": " ++ type.text).toList ++ (following [',', ' '] (fieldTexts fields) ++ [']'])) := by
    rw [text, fieldTexts, String.toList_append, String.toList_append, toList_intercalate]
    simp [following]
  have closing : Closes ([']'] ++ rest) := closes_of (by decide) rest
  have inside := (others _ closing).append closeBracket_lexes
  have after := closes_following comma_separates.1 (fieldTexts fields) closing
  rw [← List.append_assoc] at after
  rw [source, write]
  exact openBracket_lexes.append ((field_gives identifier head _ after).append inside)

theorem union_gives {first : TypeExpr} {members : List TypeExpr} (head : Gives first.text.toList first.write)
    (others : Gives (following ['|'] (texts members)) (writeAfter TokenKind.pipe.word members)) :
    Gives (union (first :: members)).text.toList (union (first :: members)).write := by
  have source : (union (first :: members)).text.toList = first.text.toList ++ following ['|'] (texts members) := by
    rw [text, texts, toList_intercalate]
    rfl
  rw [source, write]
  exact head.followed pipe_separates.1 others

mutual
theorem text_gives : ∀ typeExpr : TypeExpr, typeExpr.Proper → typeExpr.Lexical → Gives typeExpr.text.toList typeExpr.write
  | named name position, _, lexical => fun rest closes => by
    rw [text, write]
    exact named_lexes lexical closes
  | generic name [] position, proper, _ => absurd rfl proper.1
  | generic name (first :: args) position, proper, lexical =>
    generic_gives lexical.1 (text_opens first proper.2.1 lexical.2.1) (text_gives first proper.2.1 lexical.2.1)
      (texts_give comma_separates args proper.2.2 lexical.2.2) position
  | record [] position, _, _ => fun rest _ => by
    have source : (record [] position).text.toList = ['['] ++ [']'] := by
      rw [text, fieldTexts]
      rfl
    rw [source, write]
    exact openBracket_lexes.append closeBracket_lexes
  | record ((name, type) :: fields) position, proper, lexical =>
    record_gives lexical.1 (text_gives type proper.1 lexical.2.1) (fields_give fields proper.2 lexical.2.2) position
  | union [], proper, _ => absurd proper.1 (by decide)
  | union (first :: members), proper, lexical =>
    union_gives (text_gives first proper.2.2.1 lexical.1) (texts_give pipe_separates members proper.2.2.2 lexical.2)

theorem texts_give {separator : List Char} {word : Word} (separates : Separates separator word) :
    ∀ typeExprs : List TypeExpr, AllProper typeExprs → AllLexical typeExprs →
    Gives (following separator (texts typeExprs)) (writeAfter word typeExprs)
  | [], _, _ => fun _ _ => .nil
  | typeExpr :: others, proper, lexical =>
    following_cons separates (text_gives typeExpr proper.1 lexical.1) (texts_give separates others proper.2 lexical.2)

theorem fields_give : ∀ fields : List (String × TypeExpr), FieldsProper fields → FieldsLexical fields →
    Gives (following [',', ' '] (fieldTexts fields)) (writeFields fields)
  | [], _, _ => fun _ _ => .nil
  | (_, type) :: others, proper, lexical =>
    following_cons comma_separates (field_gives lexical.1 (text_gives type proper.1 lexical.2.1))
      (fields_give others proper.2 lexical.2.2)
end

end TypedTemplate.TypeExpr
