import TypedTemplate.Proofs.Token.Halts

namespace TypedTemplate

namespace Literal

-- How a text may stand between two quotes. A quote of that sort and a backslash need a
-- backslash before them; the characters that have a letter of their own may be written
-- by it, and by themselves as well.
inductive Escaped (quote : Char) : List Char → List Char → Prop
  | nil : Escaped quote [] []
  | plain {c : Char} {text written : List Char} (other : c ≠ quote) (single : c ≠ '\\')
    (later : Escaped quote text written) : Escaped quote (c :: text) (c :: written)
  | guarded {c : Char} {text written : List Char} (special : c = quote ∨ c = '\\') (later : Escaped quote text written) :
    Escaped quote (c :: text) ('\\' :: c :: written)
  | lettered {c letter : Char} {text written : List Char} (means : (letter, c) ∈ [('n', '\n'), ('t', '\t'), ('r', '\r')])
    (later : Escaped quote text written) : Escaped quote (c :: text) ('\\' :: letter :: written)

variable {quote : Char} {text written : List Char}

theorem Escaped.quotable (quotes : quote = '\'' ∨ quote = '"') (escaped : Escaped quote text written) :
    Quotable quote written := by
  induction escaped with
  | nil => exact .nil
  | plain other single _ ih => exact .plain other single ih
  | @guarded c _ _ special _ ih =>
    refine .escape ?_ ih
    rintro rfl
    rcases special with same | same
    · rw [← same] at quotes
      exact absurd quotes (by decide)
    · exact absurd same (by decide)
  | @lettered c letter _ _ means _ ih =>
    refine .escape ?_ ih
    rintro rfl
    exact absurd means (by simp)

end Literal

namespace Token

open Lexeme (first? first?_of_written first?_quoted)
open Literal (Escaped)
open Source (byteLength)

end Token
end TypedTemplate
