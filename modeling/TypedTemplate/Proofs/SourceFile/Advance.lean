import TypedTemplate.Proofs.SourceFile.Phrase
import TypedTemplate.Proofs.Statement.Advance

namespace TypedTemplate

open Parsed Cursor

namespace SourceFile

open Statement

variable {origin : Cursor}

theorem parsePackageName_from {cursor : Cursor} (reached : origin.Moves cursor) :
    (parsePackageName cursor).From origin := by
  refine (consume_from reached _).andThen fun _ keyword shorter reached => ?_
  refine (consume_from reached _).after fun _ nameStart _ reached => ?_
  refine (parseName_from reached).after fun name afterName _ reached => ?_
  refine (parseAttributes_from reached).upTo fun _ last _ reached => ?_
  exact (consume_from reached _).after fun _ done _ reached => reached

theorem parseTemplate_from {cursor : Cursor} (reached : origin.Moves cursor) : (parseTemplate cursor).From origin := by
  refine (consume_from reached _).andThen fun opening keyword shorter reached => ?_
  refine (consume_from reached _).after fun _ nameStart _ reached => ?_
  refine (parseName_from reached).after fun name afterName _ reached => ?_
  refine (parseAttributes_from reached).upTo fun _ last _ reached => ?_
  refine (consume_from reached _).after fun _ bodyStart _ reached => ?_
  refine (parseBlock_from reached).upTo fun body closing _ reached => ?_
  exact (parseClosing_from reached _).after fun _ done _ reached => reached

theorem parseRest_from {cursor : Cursor} (reached : origin.Moves cursor) (version : Version)
    (packageName : Option String) : (parseRest version packageName cursor).From origin := by
  rw [parseRest]
  split
  · exact reached
  split
  · apply From.loosen
    refine (consume_from reached _).andThen fun _ next shorter reached => ?_
    exact (parseRest_from reached version packageName).upTo fun _ _ _ reached => reached
  split
  · apply From.loosen
    refine (parsePackageName_from reached).andThen fun name next shorter reached => ?_
    exact (parseRest_from reached version (some name)).upTo fun _ _ _ reached => reached
  split
  · apply From.loosen
    refine (parseTemplate_from reached).andThen fun template next shorter reached => ?_
    exact (parseRest_from reached version packageName).upTo fun file done _ reached => reached
  · exact reached
termination_by cursor.size

-- Whatever the tokens are: reading a file starts at the first and only moves on, to an end
-- token or to where it fails, and no move leads out of the stream. At each place of the stream
-- what is looked at is what stands there, and an expression, a type or a statement that is read
-- from there takes at least one token.
theorem parse_advances (tokens : List Token) (file : String) (version : Version) :
    let stream := Token.withEnd tokens file
    let origin := start tokens file
    let outcome := parseRest version none origin
    (∃ front ending, stream = front ++ [ending] ∧ ending.kind = .eof) ∧
    (parse tokens file version = outcome.result ∧ origin.Moves outcome.cursor ∧
      outcome.Ensures fun _ last => last.kind = .eof) ∧
    (∀ cursor, origin.Moves cursor → ∃ index, cursor.Stands stream file index) ∧
    ∀ index cursor, cursor.Stands stream file index →
      (index < stream.length ∧ stream[index]? = some cursor.current ∧
        (∀ offset, cursor.peek offset = (stream[index + offset]?.map Token.kind).getD .eof) ∧
        cursor.previousEnd = Token.stopAfter ⟨0, file⟩ (stream.take index)) ∧
      (∀ next, cursor.Step next → ∃ later, index ≤ later ∧ later ≤ index + 1 ∧ next.Stands stream file later) ∧
      (∀ power, (Expr.parse power cursor).Lands stream file index) ∧
      (TypeExpr.parse cursor).Lands stream file index ∧
      (Statement.parse cursor).Lands stream file index := by
  refine ⟨Token.withEnd_ends tokens file, ⟨rfl, ?_, parseRest_ends version none _⟩, ?_, ?_⟩
  · exact parseRest_from .refl version none
  · intro cursor reached
    obtain ⟨index, -, standing⟩ := (stands_start tokens file).moves reached
    exact ⟨index, standing⟩
  · intro index cursor standing
    refine ⟨⟨standing.inside, standing.current, standing.peek, standing.behind⟩, fun _ => standing.step, ?_, ?_, ?_⟩
    · exact fun power => (Expr.parse_from .refl power).lands standing
    · exact (TypeExpr.parse_from .refl).lands standing
    · exact (Statement.parse_from .refl).lands standing

-- An end token in the middle and none at the end.
def brokenTokens : List Token :=
  [⟨.dash, "-", ⟨⟨0, "f"⟩, ⟨1, "f"⟩⟩⟩, ⟨.number, "1", ⟨⟨1, "f"⟩, ⟨2, "f"⟩⟩⟩, ⟨.eof, "EOF", ⟨⟨2, "f"⟩, ⟨2, "f"⟩⟩⟩,
    ⟨.plus, "+", ⟨⟨2, "f"⟩, ⟨3, "f"⟩⟩⟩]

theorem parse_advances_brokenTokens : Token.withEnd brokenTokens "f" = brokenTokens ++ [Token.atEnd ⟨3, "f"⟩] ∧
    (Expr.parse .lowest (start brokenTokens "f")).Lands (Token.withEnd brokenTokens "f") "f" 0 :=
  ⟨by decide, ((parse_advances brokenTokens "f" .v2_4).2.2.2 0 _ (stands_start brokenTokens "f")).2.2.1 .lowest⟩

end SourceFile
end TypedTemplate
