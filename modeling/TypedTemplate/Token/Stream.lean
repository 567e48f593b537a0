import TypedTemplate.Diagnostic
import TypedTemplate.Token

namespace TypedTemplate

-- The literals written inside tags: how far each reaches, and what a quoted one says.
namespace Literal

def isNameStart (c : Char) : Bool := c.isAlpha || c == '_'
def isNameChar (c : Char) : Bool := c.isAlphanum || c == '_'

-- A point counts only if a digit follows it.
def fraction : List Char → List Char
  | '.' :: rest =>
    let digits := rest.takeWhile Char.isDigit
    if digits.isEmpty then [] else '.' :: digits
  | _ => []

def exponentSign : List Char → List Char
  | '+' :: _ => ['+']
  | '-' :: _ => ['-']
  | _ => []

-- So does an exponent mark, with at most a sign between.
def exponent : List Char → List Char
  | mark :: rest =>
    if mark = 'e' ∨ mark = 'E' then
      let sign := exponentSign rest
      let digits := (rest.drop sign.length).takeWhile Char.isDigit
      if digits.isEmpty then [] else mark :: (sign ++ digits)
    else []
  | [] => []

def number (source : List Char) : List Char :=
  let whole := source.takeWhile Char.isDigit
  let afterWhole := source.drop whole.length
  let part := fraction afterWhole
  whole ++ part ++ exponent (afterWhole.drop part.length)

-- From after the opening quote up to and with the closing one. A backslash takes the
-- next character along, which may not be a newline.
def quotedTail (quote : Char) : List Char → Option (List Char)
  | [] => none
  | '\\' :: rest =>
    match rest with
    | [] => none
    | c :: rest => if c = '\n' then none else (quotedTail quote rest).map fun tail => '\\' :: c :: tail
  | c :: rest => if c = quote then some [c] else (quotedTail quote rest).map (c :: ·)

def escaped? : Char → Option Char
  | 'n' => some '\n'
  | 't' => some '\t'
  | 'r' => some '\r'
  | '\\' => some '\\'
  | '\'' => some '\''
  | '"' => some '"'
  | _ => none

-- An escape that stands for nothing is left as it is written.
def unescape : List Char → List Char
  | [] => []
  | '\\' :: rest =>
    match rest with
    | [] => ['\\']
    | c :: rest =>
      match escaped? c with
      | some meant => meant :: unescape rest
      | none => '\\' :: c :: unescape rest
  | c :: rest => c :: unescape rest

end Literal

-- Raw text and tags are read by different rules; delimiters switch between them.
inductive Region where
  | text | tag
deriving DecidableEq

def Region.after (region : Region) (kind : TokenKind) : Region :=
  if kind.opensTag then .tag else if kind.closesTag then .text else region

-- A piece at the start of a source: what it is, and its characters. White space
-- inside a tag is a piece of no kind.
structure Lexeme where
  kind : Option TokenKind
  text : List Char

namespace Lexeme

def ofKind (kind : TokenKind) : Lexeme := ⟨some kind, kind.spelling.toList⟩

def value (kind : TokenKind) (text : List Char) : String :=
  match kind with
  | .variableName => String.ofList (text.drop 1)
  | .string => String.ofList (Literal.unescape (text.drop 1).dropLast)
  | _ => String.ofList text

def word (text : List Char) : Lexeme :=
  match TokenKind.reserved.find? fun kind => kind.spelling.toList == text with
  | some kind => ⟨some kind, text⟩
  | none => ⟨some .identifier, text⟩

def variableName? : List Char → Option Lexeme
  | c :: rest =>
    if Literal.isNameStart c then some ⟨some .variableName, '$' :: c :: rest.takeWhile Literal.isNameChar⟩ else none
  | [] => none

def punctuation? (source : List Char) : Option Lexeme :=
  (TokenKind.punctuation.find? fun kind => kind.spelling.toList.isPrefixOf source).map ofKind

def inText : List Char → Option Lexeme
  | [] => none
  | '{' :: '/' :: _ => some (ofKind .closeTagOpen)
  | '{' :: _ => some (ofKind .openCurly)
  | c :: rest => some ⟨some .text, c :: rest.takeWhile (· != '{')⟩

def inTag : List Char → Option Lexeme
  | [] => none
  | c :: rest =>
    if Text.isBlank c then some ⟨none, c :: rest.takeWhile Text.isBlank⟩
    else if c = '$' then variableName? rest
    else if Literal.isNameStart c then some (word (c :: rest.takeWhile Literal.isNameChar))
    else if c.isDigit then some ⟨some .number, Literal.number (c :: rest)⟩
    else if c = '\'' ∨ c = '"' then (Literal.quotedTail c rest).map fun tail => ⟨some .string, c :: tail⟩
    else punctuation? (c :: rest)

def first? : Region → List Char → Option Lexeme
  | .text => inText
  | .tag => inTag

theorem number_ne_nil {c : Char} {rest : List Char} (digit : c.isDigit = true) :
    Literal.number (c :: rest) ≠ [] := by
  simp [Literal.number, digit]

theorem punctuation_spelling {kind : TokenKind} (listed : kind ∈ TokenKind.punctuation) :
    kind.spelling.toList ≠ [] := by
  revert kind
  decide

theorem text_ne_nil {region : Region} {source : List Char} {lexeme : Lexeme}
    (found : first? region source = some lexeme) : lexeme.text ≠ [] := by
  cases region with
  | text =>
    simp only [first?] at found
    unfold inText at found
    split at found <;> cases found
    · decide
    · decide
    · exact List.cons_ne_nil _ _
  | tag =>
    cases source with
    | nil => simp [first?, inTag] at found
    | cons c rest =>
      simp only [first?, inTag] at found
      split at found
      · cases found; simp
      · split at found
        · cases rest with
          | nil => simp [variableName?] at found
          | cons d rest => simp only [variableName?] at found; split at found <;> cases found; simp
        · split at found
          · cases found; unfold word; split <;> simp
          · split at found
            · rename_i digit; cases found; exact number_ne_nil digit
            · split at found
              · obtain ⟨tail, _, rfl⟩ := Option.map_eq_some_iff.mp found; simp
              · obtain ⟨kind, got, rfl⟩ := Option.map_eq_some_iff.mp found
                exact punctuation_spelling (List.mem_of_find?_eq_some got)

end Lexeme

namespace Token

-- The tokens of what remains of a source from an offset on. White space is passed
-- over; a character that starts no lexeme ends the reading.
def ofChars (file : String) (region : Region) (offset : Nat) (source : List Char) :
    Except Diagnostic (List Token) :=
  match source with
  | [] => .ok [atEnd (.behind offset file)]
  | c :: rest =>
    match _found : Lexeme.first? region (c :: rest) with
    | none => .error ⟨.unrecognisedToken (String.singleton c), .behind offset file, none⟩
    | some lexeme =>
      let stop := offset + Source.byteLength lexeme.text
      let remaining := (c :: rest).drop lexeme.text.length
      match lexeme.kind with
      | none => ofChars file region stop remaining
      | some kind =>
        (ofChars file (region.after kind) stop remaining).map
          (⟨kind, Lexeme.value kind lexeme.text, ⟨.behind offset file, .behind stop file⟩⟩ :: ·)
termination_by source.length
decreasing_by
  all_goals
    have taken := List.length_pos_iff.mpr (Lexeme.text_ne_nil _found)
    simp only [List.length_drop, List.length_cons]
    omega

def defaultFile : String := "shell"

def tokenize (source : String) (file : String) : Except Diagnostic (List Token) :=
  ofChars file .text 0 source.toList

end Token

end TypedTemplate
