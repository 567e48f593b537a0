import TypedTemplate.Proofs.SourceFile.Nesting
import TypedTemplate.Proofs.Statement.Begins
import TypedTemplate.Proofs.Token.Scan

namespace TypedTemplate

open Source (Boundary)
open Token (Halts tokenize)

-- A diagnostic at a place that the source has: where one of its tokens starts, the last of
-- which is the end, or else where the first character stands that starts none.
structure Diagnostic.Located (source name : String) (diagnostic : Diagnostic) : Prop where
  file : diagnostic.position.file = name
  within : diagnostic.position.offset ≤ source.utf8ByteSize
  boundary : Boundary source diagnostic.position.offset
  found : (∃ tokens, tokenize source name = .ok tokens ∧ ∃ token ∈ tokens, diagnostic.position = token.span.start ∧
      (token.kind = .eof → diagnostic.position.offset = source.utf8ByteSize)) ∨
    ∃ c, diagnostic.fault = .unrecognisedToken (.singleton c) ∧ Halts source name .text 0 diagnostic.position.offset c

section

variable {source name : String} {tokens : List Token} {diagnostic : Diagnostic}

theorem Diagnostic.located_of_token (small : source.utf8ByteSize < 2 ^ 32) (read : tokenize source name = .ok tokens)
    (starts : ∃ token ∈ tokens, diagnostic.position = token.span.start) : diagnostic.Located source name := by
  obtain ⟨token, among, same⟩ := starts
  obtain ⟨file, boundary, ends⟩ := (Token.walk_of_tokenize small read).token_placed token among
  have offset : diagnostic.position.offset = token.start := congrArg Position.offset same
  refine ⟨same ▸ file, ?_, ?_, .inl ⟨tokens, read, token, among, same, fun last => offset.trans (ends last)⟩⟩
  · rw [offset]
    exact Source.le_of_boundary boundary
  · rw [offset]
    exact boundary

theorem Diagnostic.located_of_halts (small : source.utf8ByteSize < 2 ^ 32) (failed : tokenize source name = .error diagnostic) :
    diagnostic.Located source name := by
  obtain ⟨stop, c, rfl, halts⟩ :=
    @Token.ofChars_halts source name .text [] [] source.toList 0 diagnostic small failed rfl rfl nofun nofun
  have within := Source.le_of_boundary halts.boundary
  have counted := Position.offset_behind_of_lt (Nat.lt_of_le_of_lt within small) name
  refine ⟨rfl, ?_, ?_, .inr ⟨c, rfl, ?_⟩⟩
  · rwa [counted]
  · rw [counted]
    exact halts.boundary
  · rwa [counted]

theorem Cursor.ahead_of_tokenize (read : tokenize source name = .ok tokens) : (Cursor.start tokens name).ahead = tokens := by
  obtain ⟨front, _, _, rfl⟩ := Token.scans_of_ok read
  exact Cursor.ahead_start rfl name

end

namespace SourceFile

def reports : Except Diagnostic (SourceFile × Log) → List Diagnostic
  | .error diagnostic => [diagnostic]
  | .ok (_, log) => log.diagnostics

theorem check_begins {tokens : List Token} {file : SourceFile}
    (settled : ∀ statement ∈ file.statements, statement.Settled tokens) (typeNamed : String → Option Ty)
    (signature : String → Option Signature) : (file.check typeNamed signature).Begins tokens := by
  obtain ⟨packageName, templates, version⟩ := file
  rw [statements] at settled
  rw [check]
  dsimp only at settled ⊢
  induction templates with
  | nil => exact .empty
  | cons template rest ih =>
    rw [List.flatMap_cons, List.forall_mem_append] at settled
    exact (Statement.checkBlock_begins _ template.body _ settled.1).append (ih settled.2)

-- Whatever a source is checked against, what is reported is at a place of that source. No
-- place is made up, and none is inside a character or past the end.
theorem checkSource_located {source : String} (small : source.utf8ByteSize < 2 ^ 32) (name : String) (version : Version)
    (typeNamed : String → Option Ty) (signature : String → Option Signature) :
    ∀ diagnostic ∈ reports (checkSource source name version typeNamed signature), diagnostic.Located source name := by
  rw [checkSource]
  cases outcome : ofSource source name version with
  | ok file =>
    intro diagnostic listed
    obtain ⟨tokens, read, parts, _⟩ := settled_of_ofSource small outcome
    exact Diagnostic.located_of_token small read (check_begins parts.statements typeNamed signature diagnostic listed)
  | error diagnostic =>
    refine List.forall_mem_singleton.mpr ?_
    unfold ofSource at outcome
    split at outcome
    · rename_i failed
      cases outcome
      exact Diagnostic.located_of_halts small failed
    · rename_i tokens read
      have within : (Cursor.start tokens name).ahead ⊆ tokens := by
        rw [Cursor.ahead_of_tokenize read]
        exact List.Subset.refl tokens
      have obeys := parseRest_obeys version none within
      exact Diagnostic.located_of_token small read (obeys.of_error outcome)

-- `é{template .t}{@param a: list<b>}{let $a: $c /}{-'d'}{foreach $e in 1}{/foreach}{/template}`
def mislaidSource : String :=
  "é\x7btemplate .t\x7d\x7b@param a: list<b>\x7d\x7blet $a: $c /\x7d\x7b-'d'\x7d" ++
    "\x7bforeach $e in 1\x7d\x7b/foreach\x7d\x7b/template\x7d"

-- `{template .t}{$a`
def brokenSource : String := "\x7btemplate .t\x7d\x7b$a"

-- `{template .t}é{$a + #}{/template}`
def illegibleSource : String := "\x7btemplate .t\x7dé\x7b$a + #\x7d\x7b/template\x7d"

def reportsOn (source : String) : List Diagnostic :=
  reports (checkSource source Token.defaultFile .v2_4 (Context.builtin .v2_4).typeNamed (Context.builtin .v2_4).signature)

-- What is found in the first is at the name of a type, at a variable, at a tag, at a sign and
-- at a number; the second stops at its end, and nothing can be read at the `#` of the third.
theorem checkSource_located_reportsOn :
    (reportsOn mislaidSource).map (fun diagnostic => diagnostic.position.offset) = [31, 43, 34, 49, 69] ∧
      (∀ diagnostic ∈ reportsOn mislaidSource, diagnostic.Located mislaidSource Token.defaultFile) ∧
      (reportsOn brokenSource).map (fun diagnostic => diagnostic.position.offset) = [16] ∧
      brokenSource.utf8ByteSize = 16 ∧
      (∀ diagnostic ∈ reportsOn brokenSource, diagnostic.Located brokenSource Token.defaultFile) ∧
      (reportsOn illegibleSource).map (fun diagnostic => (diagnostic.fault, diagnostic.position.offset)) =
        [(.unrecognisedToken "#", 21)] ∧
      ∀ diagnostic ∈ reportsOn illegibleSource, diagnostic.Located illegibleSource Token.defaultFile := by
  refine ⟨by decide +kernel, ?_, by decide +kernel, by decide +kernel, ?_, by decide +kernel, ?_⟩
  · exact checkSource_located (by decide +kernel) Token.defaultFile .v2_4 _ _
  · exact checkSource_located (by decide +kernel) Token.defaultFile .v2_4 _ _
  · exact checkSource_located (by decide +kernel) Token.defaultFile .v2_4 _ _

end SourceFile
end TypedTemplate
