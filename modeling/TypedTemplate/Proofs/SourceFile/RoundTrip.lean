import TypedTemplate.Proofs.Statement.ReadBack
import TypedTemplate.SourceFile

namespace TypedTemplate

open Statement (tag closing writeName writeBlock)

def Template.shape (template : Template) : Template := ⟨template.name, Statement.shapes template.body, .nowhere⟩

def Template.write (spelling : Spelling) (template : Template) : List Word :=
  tag .templateWord (writeName template.name) ++ (writeBlock spelling template.body ++ closing .templateWord)

namespace SourceFile

open Parsed Cursor

def shape (file : SourceFile) : SourceFile := { file with templates := file.templates.map Template.shape }

def writePackageName : Option String → List Word
  | none => []
  | some name => tag .namespaceWord (writeName name)

def write (spelling : Spelling) (file : SourceFile) : List Word :=
  writePackageName file.packageName ++ file.templates.flatMap (Template.write spelling)

def Proper (file : SourceFile) : Prop := ∀ template ∈ file.templates, Statement.BodyProper template.body

variable {spelling : Spelling} {cursor : Cursor} {words : List Word} {rest : List Token}

theorem heading_read (name : String)
    (spells : cursor.Spells (writeName name ++ (TokenKind.closeCurly.word :: words)) rest) :
    ∃ afterName next brace, next.Spells words rest ∧ (Statement.parseName cursor).Gives name afterName ∧
      (Statement.parseAttributes afterName).Gives () afterName ∧ (afterName.consume .closeCurly).Gives brace next := by
  obtain ⟨afterName, spells, named⟩ := Statement.name_read name spells
  have skipped := Statement.attributes_read spells
  obtain ⟨_, next, closed, spells⟩ := spells.consume
  exact ⟨afterName, next, _, spells, named, skipped, closed⟩

theorem packageName_read (name : String)
    (spells : cursor.Spells (tag .namespaceWord (writeName name) ++ words) rest) :
    ∃ next, next.Spells words rest ∧ (parsePackageName cursor).Gives name next := by
  simp only [tag, List.cons_append, List.append_assoc, List.nil_append] at spells
  obtain ⟨_, keyword, opened, spells⟩ := spells.consume
  obtain ⟨_, nameStart, declared, spells⟩ := spells.consume
  obtain ⟨afterName, next, _, spells, named, skipped, closed⟩ := heading_read name spells
  refine ⟨next, spells, ?_⟩
  rw [parsePackageName]
  refine opened.andThen fun _ => declared.after fun _ => ?_
  refine named.after fun _ => skipped.upTo fun _ => ?_
  exact closed.after fun _ => gives_ok _

theorem template_read {template : Template} (reads : Statement.BodyReads spelling template.body)
    (spells : cursor.Spells (template.write spelling ++ words) rest) :
    ∃ found next, found.shape = template.shape ∧ next.Spells words rest ∧ (parseTemplate cursor).Gives found next := by
  simp only [Template.write, tag, List.cons_append, List.append_assoc, List.nil_append] at spells
  obtain ⟨opening, keyword, opened, spells⟩ := spells.consume
  obtain ⟨_, nameStart, declared, spells⟩ := spells.consume
  obtain ⟨afterName, bodyStart, _, spells, named, skipped, passed⟩ := heading_read template.name spells
  obtain ⟨body, closer, same, spells, given⟩ := reads bodyStart _ rest (Statement.closes_closing _) spells
  obtain ⟨next, spells, closed⟩ := Statement.closing_read spells
  refine ⟨⟨template.name, body, ⟨opening.start, next.previousEnd⟩⟩, next, by rw [Template.shape, Template.shape, same],
    spells, ?_⟩
  rw [parseTemplate]
  refine opened.andThen fun _ => declared.after fun _ => ?_
  refine named.after fun _ => skipped.upTo fun _ => ?_
  refine passed.after fun _ => given.upTo fun _ => ?_
  exact closed.after fun _ => gives_ok _

theorem templates_read {templates : List Template}
    (reads : ∀ template ∈ templates, Statement.BodyReads spelling template.body) (packageName : Option String)
    (version : Version) (spells : cursor.Spells (templates.flatMap (Template.write spelling)) rest)
    (ends : TokenKind.ahead rest = .eof) :
    ∃ found next, found.shape = (SourceFile.mk packageName templates version).shape ∧
      (parseRest version packageName cursor).Gives found next := by
  induction templates generalizing cursor with
  | nil =>
    have here : cursor.kind = .eof := by rw [kind_eq_ahead, spells_nil.mp spells, ends]
    refine ⟨⟨packageName, [], version⟩, cursor, rfl, ?_⟩
    rw [parseRest, if_pos (by simp [hasTokens, here])]
    exact gives_ok _
  | cons template others ih =>
    rw [List.forall_mem_cons] at reads
    rw [List.flatMap_cons] at spells
    have here : cursor.kind = .openCurly := spells.kind_eq
    have ahead : cursor.peek 1 = .templateWord := spells.peek_eq
    obtain ⟨found, middle, same, spells, given⟩ := template_read reads.1 spells
    obtain ⟨file, next, same', others⟩ := ih reads.2 spells
    refine ⟨{ file with templates := found :: file.templates }, next, ?_, ?_⟩
    · simp only [shape, SourceFile.mk.injEq] at same' ⊢
      exact ⟨same'.1, by rw [List.map_cons, List.map_cons, same, same'.2.1], same'.2.2⟩
    rw [parseRest, if_neg (by simp [hasTokens, here]), if_neg (by simp [here]), if_neg (by simp [ahead]),
      if_pos ⟨here, ahead⟩]
    refine (given.andThen fun _ => ?_).loosen
    exact others.upTo fun _ => gives_ok _

theorem file_read {file : SourceFile} (reads : ∀ template ∈ file.templates, Statement.BodyReads spelling template.body)
    (version : Version) (spells : cursor.Spells (file.write spelling) rest) (ends : TokenKind.ahead rest = .eof) :
    ∃ found next, found.shape = { file with version := version }.shape ∧
      (parseRest version none cursor).Gives found next := by
  obtain ⟨packageName, templates, _⟩ := file
  rw [write] at spells
  cases packageName with
  | none => exact templates_read reads none version spells ends
  | some name =>
    have here : cursor.kind = .openCurly := spells.kind_eq
    have ahead : cursor.peek 1 = .namespaceWord := spells.peek_eq
    obtain ⟨middle, spells, given⟩ := packageName_read name spells
    obtain ⟨found, next, same, given'⟩ := templates_read reads (some name) version spells ends
    refine ⟨found, next, same, ?_⟩
    rw [parseRest, if_neg (by simp [hasTokens, here]), if_neg (by simp [here]), if_pos ⟨here, ahead⟩]
    refine (given.andThen fun _ => ?_).loosen
    exact given'.upTo fun _ => gives_ok _

theorem write_ends (spelling : Spelling) (file : SourceFile) :
    ∀ word ∈ (file.write spelling).getLast?, word = TokenKind.closeCurly.word := by
  obtain ⟨packageName, templates, version⟩ := file
  intro word last
  rcases List.eq_nil_or_concat templates with rfl | ⟨others, template, rfl⟩
  · cases packageName with
    | none => cases last
    | some name =>
      have ends : write spelling ⟨some name, [], version⟩ =
          (TokenKind.openCurly.word :: TokenKind.namespaceWord.word :: writeName name) ++
            [TokenKind.closeCurly.word] := by
        simp [write, writePackageName, tag]
      rw [ends, List.getLast?_concat] at last
      exact (Option.some.inj last).symm
  · simpa [write, Template.write, closing, eq_comm] using last

-- Reading takes back writing. A file whose tags and texts are written out, with or without
-- an end after them, is read as it was, its places and the numbers of its expressions
-- apart, and is of the version it is read in.
theorem parse_written (spelling : Spelling) (file : SourceFile) (proper : file.Proper)
    (spellable : ∀ expr ∈ file.expressions, expr.Spellable spelling.float) {tokens ending : List Token}
    (written : tokens.map Token.word = file.write spelling) (ends : ∀ token ∈ ending, token.kind = .eof)
    (name : String) (version : Version) :
    ∃ found, parse (tokens ++ ending) name version = .ok found ∧
      found.shape = { file with version := version }.shape := by
  have reads : ∀ template ∈ file.templates, Statement.BodyReads spelling template.body := by
    intro template listed
    refine Statement.body_reads_back spelling template.body (proper template listed) fun expr inside part within => ?_
    exact spellable part (List.mem_flatMap.mpr ⟨template, listed, List.mem_flatMap.mpr ⟨expr, inside, within⟩⟩)
  have last : ∀ token ∈ tokens.getLast?, token.kind ≠ .eof := by
    intro token there
    have word : token.word = TokenKind.closeCurly.word := by
      refine write_ends spelling file token.word ?_
      rw [← written, List.getLast?_map]
      exact Option.mem_map_of_mem Token.word there
    rw [show token.kind = .closeCurly from congrArg Prod.fst word]
    exact nofun
  obtain ⟨rest, ahead, ended⟩ := rest_start_of_ends last ends name
  obtain ⟨found, next, same, shorter, given⟩ := file_read reads version (spells_of_rest ahead written) ended
  refine ⟨found, ?_, same⟩
  rw [parse, given]
  rfl

-- Loops are written with `for`, and a print says so where its place is known.
def plainSpelling : Spelling := ⟨fun _ => "0.0", fun _ => true, (· ≠ .nowhere)⟩

-- `{namespace app.page}{template .rows}{@param? rows: list<string|null>}{let $head}{for $row in $rows}
-- {if $row}{print $row |trim}{elseif 1 > $rows}-{else}{$row}{/if}{ifempty}{let $n: 1 /}{/for}{/let}{/template}`
def nestedFile : SourceFile :=
  let node := Node.numbered 0
  let known : Span := ⟨⟨1, "page"⟩, ⟨2, "page"⟩⟩
  let row := Expr.var node "row"
  let rows := Expr.var node "rows"
  let chain := Statement.choose
    [⟨row, [.print row ["trim"] known], .nowhere⟩,
      ⟨.binary node .greater (.int node 1) rows, [.text "-" .nowhere], .nowhere⟩]
    (some [.print row [] .nowhere]) .nowhere
  let loop := Statement.foreach "row" rows [chain] (some [.letValue "n" (.int node 1) .nowhere]) .nowhere
  let listed := TypeExpr.generic "list" [.union [.named "string" .nowhere, .named "null" .nowhere]] .nowhere
  let body := [Statement.param "rows" .optional listed .nowhere, .letBlock "head" [loop] .nowhere]
  ⟨some "app.page", [⟨".rows", body, .nowhere⟩], .v2_4⟩

def nestedTokens : List Token := (nestedFile.write plainSpelling).map fun word => ⟨word.1, word.2, .nowhere⟩

theorem nestedFile_proper : nestedFile.Proper := by
  simp [Proper, nestedFile, Statement.BodyProper, Statement.Proper, Statement.BranchesProper, Statement.OptionalProper,
    TypeExpr.Proper, TypeExpr.AllProper, TypeExpr.isUnion]

theorem parse_written_nestedFile :
    nestedFile.Proper ∧ (∀ expr ∈ nestedFile.expressions, expr.Spellable plainSpelling.float) ∧
      nestedTokens.map Token.value = ["\x7b", "namespace", "app", ".", "page", "\x7d",
        "\x7b", "template", ".", "rows", "\x7d",
        "\x7b", "@param?", "rows", ":", "list", "<", "string", "|", "null", ">", "\x7d",
        "\x7b", "let", "head", "\x7d", "\x7b", "for", "row", "in", "rows", "\x7d",
        "\x7b", "if", "row", "\x7d", "\x7b", "print", "row", "|", "trim", "\x7d",
        "\x7b", "elseif", "1", ">", "rows", "\x7d", "-", "\x7b", "else", "\x7d", "\x7b", "row", "\x7d",
        "\x7b/", "if", "\x7d", "\x7b", "ifempty", "\x7d", "\x7b", "let", "n", ":", "1", "/\x7d", "\x7b/", "for", "\x7d",
        "\x7b/", "let", "\x7d", "\x7b/", "template", "\x7d"] ∧
      ∃ found, parse (nestedTokens ++ [Token.atEnd .nowhere]) "page" .v2_0 = .ok found ∧
        found.shape = { nestedFile with version := .v2_0 }.shape := by
  have spellable : ∀ expr ∈ nestedFile.expressions, expr.Spellable plainSpelling.float := by
    simp [nestedFile, expressions, Statement.bodyExpressions, Statement.expressions, Statement.branchExpressions,
      Expr.subterms, Expr.Spellable]
  have written : nestedTokens.map Token.word = nestedFile.write plainSpelling := by
    rw [nestedTokens, List.map_map]
    exact List.map_id _
  have ends : ∀ token ∈ [Token.atEnd .nowhere], token.kind = .eof := List.forall_mem_singleton.mpr rfl
  exact ⟨nestedFile_proper, spellable, by decide +kernel,
    parse_written plainSpelling nestedFile nestedFile_proper spellable written ends "page" .v2_0⟩

end SourceFile
end TypedTemplate
