import TypedTemplate.Proofs.SourceFile.Annotated
import TypedTemplate.Proofs.SourceFile.Phrase
import TypedTemplate.Proofs.Statement.Extent
import TypedTemplate.Proofs.Token.Append
import TypedTemplate.SourceFile

namespace TypedTemplate

open Statement (Parts bodyInside)
open Source (byteLength byteLength_append)
open Token (InOrder Spread tokenize)

theorem Template.Phrase.settled {tokens : List Token} {template : Template} (read : template.Phrase tokens)
    (ordered : InOrder tokens) : Parts tokens [template.span] [] (bodyInside template.body) ∧
      template.span.Encloses (template.body.map Statement.span) := by
  cases read with
  | template _ _ _ _ inside _ =>
    have within := ordered.tail.tail.right.right.tail
    have parts := ((inside.settled within.left).closed [_, _] within).skip.behind.behind.skip.opened ordered
    exact ⟨⟨.single parts.spread.whole, nofun, parts.statements⟩,
      parts.spread.encloses ((List.sublist_append_left _ _).cons _)⟩

namespace SourceFile

theorem PiecesPhrase.settled {tokens : List Token} {names : List String} {templates : List Template}
    (read : PiecesPhrase tokens names templates) (ordered : InOrder tokens) :
    Parts tokens (templates.map Template.span) [] (templates.flatMap fun template => bodyInside template.body) ∧
      ∀ template ∈ templates, template.span.Encloses (template.body.map Statement.span) := by
  induction read with
  | none => exact ⟨.none _, nofun⟩
  | text _ _ ih =>
    obtain ⟨parts, encloses⟩ := ih ordered.tail
    exact ⟨parts.skip, encloses⟩
  | package _ _ _ _ _ ih =>
    obtain ⟨parts, encloses⟩ := ih ordered.tail.tail.right.right.tail
    exact ⟨parts.skip.behind.behind.skip.skip, encloses⟩
  | template read _ ih =>
    obtain ⟨first, inside⟩ := read.settled ordered.left
    obtain ⟨parts, encloses⟩ := ih ordered.right
    exact ⟨first.append ordered parts, List.forall_mem_cons.mpr ⟨inside, encloses⟩⟩

theorem tokens_of_ofSource {source name : String} {version : Version} {file : SourceFile}
    (read : ofSource source name version = .ok file) :
    ∃ tokens, tokenize source name = .ok tokens ∧ parse tokens name version = .ok file := by
  unfold ofSource at read
  split at read
  · cases read
  · rename_i tokens found
    exact ⟨tokens, found, read⟩

theorem settled_of_ofSource {source name : String} {version : Version} {file : SourceFile}
    (small : source.utf8ByteSize < 2 ^ 32) (read : ofSource source name version = .ok file) : ∃ tokens, tokenize source name = .ok tokens ∧
      Parts tokens (file.templates.map Template.span) [] file.statements ∧
        ∀ template ∈ file.templates, template.span.Encloses (template.body.map Statement.span) := by
  obtain ⟨tokens, found, parsed⟩ := tokens_of_ofSource read
  obtain ⟨_, names, pieces, _⟩ := parse_pieces parsed
  obtain ⟨parts, encloses⟩ := pieces.settled (Token.walk_of_tokenize small found).inOrder
  exact ⟨tokens, found, parts.mono (List.takeWhile_sublist _).subset, encloses⟩

theorem lies_of_statements {tokens : List Token} {file : SourceFile}
    (settled : ∀ statement ∈ file.statements, statement.Settled tokens) : ∀ root ∈ file.roots, root.Lies tokens := by
  intro root listed
  obtain ⟨statement, inside, own⟩ := mem_roots.mp listed
  exact (settled statement inside).expressions root own

-- In a file that was read from a source no two nodes overlap unless one is inside the
-- other. Every expression covers something of the source, and its parts stand within it one
-- after another; so do the expressions and the bodies of a statement, and the body of a template.
theorem ofSource_nests {source name : String} {version : Version} {file : SourceFile}
    (small : source.utf8ByteSize < 2 ^ 32) (read : ofSource source name version = .ok file) :
    (∀ expr ∈ file.expressions, expr.span.start.offset < expr.span.stop.offset ∧
        expr.span.Encloses (expr.children.map Expr.span)) ∧
      (∀ statement ∈ file.statements, statement.span.start.offset < statement.span.stop.offset ∧
        statement.span.Encloses statement.parts) ∧
      ∀ template ∈ file.templates, template.span.Encloses (template.body.map Statement.span) := by
  obtain ⟨tokens, _, parts, encloses⟩ := settled_of_ofSource small read
  refine ⟨fun expr inside => ?_, fun statement listed => ?_, encloses⟩
  · rw [expressions_eq] at inside
    obtain ⟨root, listed, part⟩ := List.mem_flatMap.mp inside
    obtain ⟨among, ordered⟩ := lies_of_statements parts.statements root listed expr part
    exact ⟨among.extended, ordered⟩
  · have settled := parts.statements statement listed
    exact ⟨settled.among.extended, settled.encloses⟩

-- `{template .t}{-($a + [1])[(0)].b|trim}{if $x}c{$y ? f(1) : ['k': null]}{else}{let $z}{$w}{/let}{/if}{/template}`
def layeredSource : String :=
  "\x7btemplate .t\x7d\x7b-($a + [1])[(0)].b|trim\x7d\x7bif $x\x7dc\x7b$y ? f(1) : ['k': null]\x7d" ++
    "\x7belse\x7d\x7blet $z\x7d\x7b$w\x7d\x7b/let\x7d\x7b/if\x7d\x7b/template\x7d"

def layeredFile : SourceFile := (ofSource layeredSource Token.defaultFile .v2_4).toOption.getD ⟨none, [], .v2_4⟩

theorem ofSource_found {source name : String} {version : Version}
    (found : (ofSource source name version).toOption.isSome) :
    ofSource source name version = .ok ((ofSource source name version).toOption.getD ⟨none, [], version⟩) :=
  ok_of_isSome found _

-- An expression that begins with parentheses starts inside of them.
theorem ofSource_nests_layeredFile : layeredSource.utf8ByteSize < 2 ^ 32 ∧ ofSource layeredSource Token.defaultFile .v2_4 = .ok layeredFile ∧
    (layeredFile.expressions.map fun expr => (expr.span.start.offset, expr.span.stop.offset)) =
      [(16, 18), (22, 23), (21, 24), (16, 24), (27, 28), (16, 30), (16, 32), (14, 32), (42, 44), (47, 49), (54, 55),
        (52, 56), (60, 63), (65, 69), (59, 70), (47, 70), (86, 88)] ∧
    (∀ expr ∈ layeredFile.expressions, expr.span.start.offset < expr.span.stop.offset ∧
      expr.span.Encloses (expr.children.map Expr.span)) ∧
    (layeredFile.statements.map fun statement => (statement.span.start.offset, statement.span.stop.offset)) =
      [(13, 38), (38, 100), (45, 46), (46, 71), (77, 95), (85, 89)] ∧
    (∀ statement ∈ layeredFile.statements, statement.span.start.offset < statement.span.stop.offset ∧
      statement.span.Encloses statement.parts) ∧
    ∀ template ∈ layeredFile.templates, template.span.Encloses (template.body.map Statement.span) := by
  have read : ofSource layeredSource Token.defaultFile .v2_4 = .ok layeredFile := ofSource_found (by decide +kernel)
  have small : layeredSource.utf8ByteSize < 2 ^ 32 := by decide +kernel
  obtain ⟨expressions, statements, templates⟩ := ofSource_nests small read
  exact ⟨small, read, by decide +kernel, expressions, by decide +kernel, statements, templates⟩

-- `{template .t}{$a` and `+$b}{/template}`, with spaces between them
def openedSource : List Char := "\x7btemplate .t\x7d\x7b$a".toList

def closingSource : List Char := "+$b\x7d\x7b/template\x7d".toList

def spacedSource (spaces : Nat) : String := .ofList (openedSource ++ (List.replicate spaces ' ' ++ closingSource))

def openedTokens : List Token := ((tokenize (.ofList openedSource) Token.defaultFile).toOption.getD []).dropLast

theorem byteLength_spaces (spaces : Nat) : byteLength (List.replicate spaces ' ') = spaces := by
  rw [(Source.byteLength_eq_length_iff _).mpr fun c among => List.eq_of_mem_replicate among ▸ rfl, List.length_replicate]

theorem tokenize_spacedSource {spaces : Nat} (some : 0 < spaces) : tokenize (spacedSource spaces) Token.defaultFile =
    (Token.ofChars Token.defaultFile .tag (16 + spaces) closingSource).map (openedTokens ++ ·) := by
  have read : tokenize (.ofList openedSource) Token.defaultFile =
      .ok (openedTokens ++ [Token.atEnd (.behind 16 Token.defaultFile)]) := by decide +kernel
  obtain ⟨stream, region, scans, same⟩ := Token.scans_of_ok read
  obtain ⟨rfl, -⟩ := List.append_inj' same rfl
  obtain rfl : region = .tag := scans.regionAfter_eq.trans (by decide +kernel)
  have blank : ∀ c ∈ List.replicate spaces ' ', Text.isBlank c := by
    intro c among
    rw [List.eq_of_mem_replicate among]
    rfl
  have seam : Token.Seam .tag openedTokens (List.replicate spaces ' ' ++ closingSource) := by
    obtain ⟨more, rfl⟩ := Nat.exists_eq_add_one.mpr some
    intro c first
    cases first
    rfl
  have reading := scans.followed rfl seam
  dsimp only at reading
  rw [String.toList_ofList, Token.ofChars_spaces blank, byteLength_spaces] at reading
  rw [tokenize, spacedSource, String.toList_ofList, reading]
  rfl

def wideSource : String := spacedSource (2 ^ 32 - 16)

def wideTokens : List Token :=
  openedTokens ++ (Token.ofChars Token.defaultFile .tag (2 ^ 32) closingSource).toOption.getD []

def wideFile : SourceFile := (parse wideTokens Token.defaultFile .v2_4).toOption.getD ⟨none, [], .v2_4⟩

-- Offsets are counted in 32 bits. Here the `+` stands where they are at zero again, and what begins
-- before it stops at a lower offset than it starts.
theorem ofSource_not_nests_wideFile : wideSource.utf8ByteSize = 2 ^ 32 + 15 ∧
    ofSource wideSource Token.defaultFile .v2_4 = .ok wideFile ∧
    (wideFile.expressions.map fun expr => (expr.span.start.offset, expr.span.stop.offset)) = [(14, 16), (1, 3), (14, 3)] ∧
    ¬∀ expr ∈ wideFile.expressions, expr.span.start.offset < expr.span.stop.offset := by
  have read : tokenize wideSource Token.defaultFile = .ok wideTokens :=
    (tokenize_spacedSource (by omega)).trans (by decide +kernel)
  have parsed : parse wideTokens Token.defaultFile .v2_4 = .ok wideFile := ok_of_isSome (by decide +kernel) _
  refine ⟨?_, ?_, by decide +kernel, by decide +kernel⟩
  · rw [wideSource, spacedSource, ← Source.byteLength_toList, String.toList_ofList, byteLength_append, byteLength_append,
      byteLength_spaces]
    decide +kernel
  · rw [ofSource, read]
    exact parsed

end SourceFile
end TypedTemplate
