import TypedTemplate.Proofs.Expr.RoundTrip
import TypedTemplate.Proofs.Statement.Optional
import TypedTemplate.Proofs.Statement.Write
import TypedTemplate.Proofs.TypeExpr.ReadBack

namespace TypedTemplate.Statement

open Parsed Cursor

variable {spelling : Spelling} {cursor next : Cursor} {words : List Word} {rest : List Token}

section names

theorem nameParts_ne_nil (name : String) : nameParts name ≠ [] := by
  rw [nameParts, Ne, List.map_eq_nil_iff]
  exact List.splitOn_ne_nil _ _

theorem intercalate_nameParts (name : String) : ".".intercalate (nameParts name) = name := by
  refine String.toList_inj.mp ?_
  have same : (nameParts name).map String.toList = name.toList.splitOn '.' := by simp [nameParts, Function.comp_def]
  rw [String.toList_intercalate, same]
  exact List.intercalate_splitOn '.'

theorem nameTail_read (parts : List String)
    (spells : cursor.Spells (writeNameTail parts ++ (TokenKind.closeCurly.word :: words)) rest) :
    ∃ tail next, (∀ first, first ++ tail = ".".intercalate (first :: parts)) ∧
      next.Spells (TokenKind.closeCurly.word :: words) rest ∧ (parseNameTail cursor).Gives tail next := by
  induction parts generalizing cursor with
  | nil =>
    have here : cursor.kind = .closeCurly := spells.kind_eq
    refine ⟨"", cursor, by simp, spells, ?_⟩
    rw [parseNameTail, if_neg (by simp [here])]
    exact gives_ok _
  | cons part others ih =>
    have here : cursor.kind = .dot := spells.kind_eq
    obtain ⟨_, nameStart, passed, spells⟩ := spells.consume
    obtain ⟨_, middle, named, spells⟩ := spells.consume
    obtain ⟨tail, next, same, spells, given⟩ := ih spells
    refine ⟨"." ++ part ++ tail, next, fun first => ?_, spells, ?_⟩
    · rw [String.intercalate_cons_cons, ← same part]
      simp [String.append_assoc]
    rw [parseNameTail, if_pos here]
    refine (passed.andThen fun _ => named.after fun _ => ?_).loosen
    exact given.upTo fun _ => gives_ok _

theorem bareName_read (first : String) (parts : List String)
    (spells : cursor.Spells ((.identifier, first) ::
      (writeNameTail parts ++ (TokenKind.closeCurly.word :: words))) rest) :
    ∃ next, next.Spells (TokenKind.closeCurly.word :: words) rest ∧
      (parseBareName cursor).Gives (".".intercalate (first :: parts)) next := by
  obtain ⟨_, middle, named, spells⟩ := spells.consume
  obtain ⟨tail, next, same, spells, given⟩ := nameTail_read parts spells
  refine ⟨next, spells, ?_⟩
  rw [parseBareName, ← same first]
  refine named.andThen fun _ => ?_
  exact given.upTo fun _ => gives_ok _

theorem name_read (name : String) (spells : cursor.Spells (writeName name ++ (TokenKind.closeCurly.word :: words)) rest) :
    ∃ next, next.Spells (TokenKind.closeCurly.word :: words) rest ∧ (parseName cursor).Gives name next := by
  have joined := intercalate_nameParts name
  rw [writeName] at spells
  match nameParts name, nameParts_ne_nil name, joined, spells with
  | first :: others, _, joined, spells =>
    rw [writeParts] at spells
    split at spells
    · rename_i leading
      obtain ⟨rfl, several⟩ := leading
      match others, several with
      | part :: others, _ =>
        have here : cursor.kind = .dot := spells.kind_eq
        obtain ⟨_, middle, passed, spells⟩ := spells.consume
        obtain ⟨next, spells, given⟩ := bareName_read part others spells
        refine ⟨next, spells, ?_⟩
        rw [parseName, if_pos here, ← joined, String.intercalate_cons_cons]
        refine passed.andThen fun _ => ?_
        exact given.after fun _ => gives_ok _
    · have here : cursor.kind = .identifier := spells.kind_eq
      obtain ⟨next, spells, given⟩ := bareName_read first others spells
      refine ⟨next, spells, ?_⟩
      rw [parseName, if_neg (by simp [here]), ← joined]
      exact given

end names

section tags

def continuations : List TokenKind := [.elseifWord, .elseWord, .ifemptyWord]

def Opens (cursor : Cursor) : Prop := atBlockEnd cursor = false ∧ cursor.hasTokens = true

def Closes : List Word → Prop
  | (.closeTagOpen, _) :: _ => True
  | (.openCurly, _) :: (kind, _) :: _ => kind ∈ continuations
  | _ => False

theorem opens_of_tag (here : cursor.kind = .openCurly) (goes : cursor.peek 1 ∉ continuations) : Opens cursor := by
  refine ⟨?_, by rw [hasTokens, here]; rfl⟩
  simp only [continuations, List.mem_cons, List.not_mem_nil, or_false, not_or] at goes
  rw [atBlockEnd, here]
  simp [goes]

theorem Closes.atBlockEnd (closes : Closes words) (spells : cursor.Spells words rest) : atBlockEnd cursor = true := by
  match words, closes with
  | (.closeTagOpen, _) :: _, _ =>
    have here : cursor.kind = .closeTagOpen := spells.kind_eq
    rw [Statement.atBlockEnd, here]
  | (.openCurly, _) :: (kind, _) :: _, closes =>
    have here : cursor.kind = .openCurly := spells.kind_eq
    have word : cursor.peek 1 = kind := spells.peek_eq
    rw [Statement.atBlockEnd, here, word]
    simp only [Closes, continuations, List.mem_cons, List.not_mem_nil, or_false] at closes
    rcases closes with rfl | rfl | rfl <;> rfl

theorem closes_closing (keyword : TokenKind) : Closes (closing keyword ++ words) := trivial

theorem closes_tag {keyword : TokenKind} (goes : keyword ∈ continuations)
    (inside : List Word) : Closes (tag keyword inside ++ words) := goes

theorem closes_optional {keyword : TokenKind} (goes : keyword ∈ continuations)
    (last : Option (List Statement)) (closes : Closes words) : Closes (writeOptional spelling keyword last ++ words) := by
  cases last with
  | none => exact closes
  | some body =>
    rw [writeOptional, List.append_assoc]
    exact closes_tag goes []

theorem tag_opened {keyword : TokenKind}
    (spells : cursor.Spells (TokenKind.openCurly.word :: keyword.word :: words) rest) :
    cursor.kind = .openCurly ∧ cursor.peek 1 = keyword ∧ ∃ opening word middle next,
      cursor.take.Gives opening middle ∧ middle.take.Gives word next ∧ word.kind = keyword ∧ next.Spells words rest := by
  have here : cursor.kind = .openCurly := spells.kind_eq
  have ahead : cursor.peek 1 = keyword := spells.peek_eq
  obtain ⟨_, middle, opened, spells⟩ := spells.take
  obtain ⟨_, next, named, spells⟩ := spells.take
  exact ⟨here, ahead, _, _, middle, next, opened, named, rfl, spells⟩

theorem closing_read {keyword : TokenKind} (spells : cursor.Spells (closing keyword ++ words) rest) :
    ∃ next, next.Spells words rest ∧ (parseClosing keyword cursor).Gives () next := by
  obtain ⟨_, word, opened, spells⟩ := spells.consumeFor ("expected closing tag for `" ++ keyword.name ++ "`")
  obtain ⟨_, last, named, spells⟩ := spells.consume
  obtain ⟨_, next, closed, spells⟩ := spells.consume
  refine ⟨next, spells, ?_⟩
  rw [parseClosing]
  refine opened.andThen fun _ => named.after fun _ => ?_
  exact closed.after fun _ => gives_ok _

theorem attributes_read (spells : cursor.Spells (TokenKind.closeCurly.word :: words) rest) :
    (parseAttributes cursor).Gives () cursor := by
  have here : cursor.kind = .closeCurly := spells.kind_eq
  rw [parseAttributes, if_neg (by simp [here])]
  exact gives_ok _

theorem directives_read (directives : List String)
    (spells : cursor.Spells (writeDirectives directives ++ (TokenKind.closeCurly.word :: words)) rest) :
    ∃ next, next.Spells (TokenKind.closeCurly.word :: words) rest ∧ (parseDirectives cursor).Gives directives next := by
  induction directives generalizing cursor with
  | nil =>
    have here : cursor.kind = .closeCurly := spells.kind_eq
    refine ⟨cursor, spells, ?_⟩
    rw [parseDirectives, if_neg (by simp [here])]
    exact gives_ok _
  | cons directive others ih =>
    have here : cursor.kind = .pipe := spells.kind_eq
    obtain ⟨_, nameStart, passed, spells⟩ := spells.consume
    obtain ⟨_, afterName, named, spells⟩ := spells.consumeFor "expected print directive name"
    have apart : afterName.kind ≠ .colon := by
      cases others with
      | nil => rw [show afterName.kind = .closeCurly from spells.kind_eq]; exact nofun
      | cons directive others => rw [show afterName.kind = .pipe from spells.kind_eq]; exact nofun
    obtain ⟨next, spells, given⟩ := ih spells
    refine ⟨next, spells, ?_⟩
    rw [parseDirectives, if_pos here]
    refine (passed.andThen fun _ => named.after fun _ => ?_).loosen
    rw [if_neg apart]
    exact given.upTo fun _ => gives_ok _

end tags

-- Words that read as a statement, and words that read as a body where they are followed
-- by what ends one.
def Reads (spelling : Spelling) (statement : Statement) : Prop :=
  ∀ (cursor : Cursor) (words : List Word) (rest : List Token), cursor.Spells (statement.write spelling ++ words) rest →
    Opens cursor ∧
      ∃ found next, found.shape = statement.shape ∧ next.Spells words rest ∧ (parse cursor).Gives found next

def BodyReads (spelling : Spelling) (body : List Statement) : Prop :=
  ∀ (cursor : Cursor) (words : List Word) (rest : List Token), Closes words →
    cursor.Spells (writeBlock spelling body ++ words) rest →
    ∃ found next, shapes found = shapes body ∧ next.Spells words rest ∧ (parseBlock cursor).Gives found next

def BranchReads (spelling : Spelling) (branch : Branch (List Statement)) : Prop :=
  branch.condition.ReadsBack spelling.float ∧ BodyReads spelling branch.body

section statements

variable {expr : Expr} {body : List Statement} {span : Span}

theorem text_reads (value : String) : Reads spelling (text value span) := by
  intro cursor words rest spells
  rw [write] at spells
  have here : cursor.kind = .text := spells.kind_eq
  obtain ⟨span, next, taken, spells⟩ := spells.take
  refine ⟨⟨by rw [atBlockEnd, here], by rw [hasTokens, here]; rfl⟩, text value span, next, rfl, spells, ?_⟩
  rw [parse, here]
  exact taken.andThen fun _ => gives_ok _

def Printed (words : List Word) (statement : Statement) : Prop :=
  ∀ (opening : Token) (cursor : Cursor) (words' : List Word) (rest : List Token), cursor.Spells (words ++ words') rest →
    (cursor.kind ∈ Expr.starters ∧ (cursor.kind = .identifier → cursor.peek 1 = .openParen)) ∧
      ∃ found next, found.shape = statement.shape ∧ next.Spells words' rest ∧ (parsePrinted opening cursor).Gives found next

theorem Printed.ne_nil {statement : Statement} (printed : Printed words statement) : words ≠ [] := by
  rintro rfl
  have starts := (printed ⟨.eof, "", .nowhere⟩ (.start [] "") [] [] (spells_nil.mpr rfl)).1.1
  exact absurd starts (by decide)

theorem printed_read (reads : expr.ReadsBack spelling.float) (directives : List String) :
    Printed (expr.bare spelling.float ++ (writeDirectives directives ++ [TokenKind.closeCurly.word]))
      (print expr directives span) := by
  intro opening cursor words rest spells
  rw [List.append_assoc, List.append_assoc] at spells
  have ends : Expr.Ends (writeDirectives directives ++ (TokenKind.closeCurly.word :: words)) := by
    cases directives <;> rfl
  obtain ⟨found, afterExpr, same, spells, given⟩ := reads.lowest.before spells ends
  obtain ⟨last, spells, given'⟩ := directives_read directives spells
  obtain ⟨_, next, closed, spells⟩ := spells.consume
  refine ⟨Expr.starts_of_parse given, print found directives ⟨opening.span.start, next.previousEnd⟩, next,
    by rw [shape, shape, same], spells, ?_⟩
  rw [parsePrinted]
  refine given.andThen fun _ => given'.upTo fun _ => ?_
  exact closed.after fun _ => gives_ok _

theorem parse_print (here : cursor.kind = .openCurly) (starts : cursor.peek 1 ∈ Expr.starters) :
    Opens cursor ∧ parse cursor = parsePrint cursor := by
  have apart : ∀ kind ∈ Expr.starters, kind ∉ continuations := by decide
  refine ⟨opens_of_tag here (apart _ starts), ?_⟩
  rw [parse, here]
  simp only [Expr.starters, List.mem_cons, List.not_mem_nil, or_false] at starts
  rcases starts with same | same | same | same | same | same | same | same | same | same | same
  all_goals
    rw [same]

theorem Printed.announced_reads {statement : Statement} {words' : List Word} (printed : Printed words statement)
    (asked : Bool) (spells : cursor.Spells (TokenKind.openCurly.word :: (announced asked words ++ words')) rest) :
    Opens cursor ∧
      ∃ found next, found.shape = statement.shape ∧ next.Spells words' rest ∧ (parse cursor).Gives found next := by
  have here : cursor.kind = .openCurly := spells.kind_eq
  obtain ⟨_, next, opened, spells⟩ := spells.take
  have ahead : cursor.peek 1 = next.kind := (current_of_take opened).2
  unfold announced at spells
  split at spells
  · -- The word is there, and no parenthesis comes after it.
    rename_i free
    rw [List.cons_append] at spells
    have named : next.kind = .identifier := spells.kind_eq
    obtain ⟨span, exprStart, taken, spells⟩ := spells.take
    obtain ⟨word, ahead'⟩ := current_of_take taken
    have consumed : (next.consume .identifier).Gives ⟨.identifier, "print", span⟩ exprStart := by
      rw [consume, if_pos named]
      exact taken
    obtain ⟨_, found, done, same, spells', given⟩ := printed _ exprStart words' rest spells
    have plain : next.peek 1 ≠ .openParen := by
      intro opens
      refine free.2 ?_
      rw [spells.head?_eq printed.ne_nil, ← ahead', opens]
    have dispatch := parse_print here (by rw [ahead, named]; decide)
    refine ⟨dispatch.1, found, done, same, spells', ?_⟩
    rw [dispatch.2, parsePrint]
    refine opened.andThen fun _ => ?_
    rw [if_pos ⟨named, by rw [word], plain⟩]
    exact consumed.after fun _ => given.after fun _ => gives_ok _
  · obtain ⟨⟨starts, calls⟩, found, done, same, spells, given⟩ := printed _ next words' rest spells
    have dispatch := parse_print here (by rw [ahead]; exact starts)
    refine ⟨dispatch.1, found, done, same, spells, ?_⟩
    rw [dispatch.2, parsePrint]
    refine opened.andThen fun _ => ?_
    rw [if_neg fun tagged => tagged.2.2 (calls tagged.1)]
    exact given.after fun _ => gives_ok _

theorem print_reads (reads : expr.ReadsBack spelling.float) (directives : List String) :
    Reads spelling (print expr directives span) := by
  intro cursor words rest spells
  rw [write, List.cons_append] at spells
  exact (printed_read reads directives).announced_reads _ spells

theorem param_reads {typeExpr : TypeExpr} (reads : TypeExpr.Reads typeExpr.write typeExpr) (name : String)
    (kind : ParamKind) : Reads spelling (param name kind typeExpr span) := by
  intro cursor words rest spells
  rw [write, tag] at spells
  simp only [List.cons_append, List.append_assoc, List.nil_append] at spells
  obtain ⟨here, ahead, opening, word, keyword, nameStart, opened, declared, same, spells⟩ := tag_opened spells
  obtain ⟨_, afterName, named, spells⟩ := spells.consumeFor "expected parameter name"
  obtain ⟨_, typeStart, passed, spells⟩ := spells.consume
  obtain ⟨found, last, alike, spells, given⟩ := reads.before spells ⟨nofun, nofun⟩
  obtain ⟨_, next, closed, spells⟩ := spells.consume
  have kept : paramKind word.kind = kind := by
    rw [same]
    cases kind <;> rfl
  have dispatch : parse cursor = parseParam cursor := by
    rw [parse, here, ahead]
    cases kind <;> rfl
  have goes : cursor.peek 1 ∉ continuations := by
    rw [ahead]
    cases kind <;> decide
  refine ⟨opens_of_tag here goes, param name (paramKind word.kind) found ⟨opening.span.start, next.previousEnd⟩, next,
    by rw [shape, shape, alike, kept], spells, ?_⟩
  rw [dispatch, parseParam]
  refine opened.andThen fun _ => declared.after fun _ => ?_
  refine named.after fun _ => passed.after fun _ => ?_
  refine given.after fun _ => ?_
  exact closed.after fun _ => gives_ok _

theorem letValue_reads (reads : expr.ReadsBack spelling.float) (name : String) :
    Reads spelling (letValue name expr span) := by
  intro cursor words rest spells
  rw [write] at spells
  simp only [List.cons_append, List.append_assoc, List.nil_append] at spells
  obtain ⟨here, ahead, opening, _, keyword, nameStart, opened, declared, _, spells⟩ := tag_opened spells
  obtain ⟨_, afterName, named, spells⟩ := spells.consumeFor "expected variable after `let`"
  have colon : afterName.kind = .colon := spells.kind_eq
  obtain ⟨_, valueStart, passed, spells⟩ := spells.consume
  obtain ⟨found, last, same, spells, given⟩ := reads.lowest.before spells rfl
  obtain ⟨_, next, closed, spells⟩ := spells.consume
  refine ⟨opens_of_tag here (by rw [ahead]; decide), letValue name found ⟨opening.span.start, next.previousEnd⟩, next,
    by rw [shape, shape, same], spells, ?_⟩
  rw [parse, here, ahead, parseLet]
  refine opened.andThen fun _ => declared.after fun _ => ?_
  refine named.after fun _ => ?_
  rw [if_pos colon]
  refine passed.after fun _ => given.after fun _ => ?_
  exact closed.after fun _ => gives_ok _

theorem letBlock_reads (reads : BodyReads spelling body) (name : String) : Reads spelling (letBlock name body span) := by
  intro cursor words rest spells
  rw [write, tag] at spells
  simp only [List.cons_append, List.append_assoc, List.nil_append] at spells
  obtain ⟨here, ahead, opening, _, keyword, nameStart, opened, declared, _, spells⟩ := tag_opened spells
  obtain ⟨_, afterName, named, spells⟩ := spells.consumeFor "expected variable after `let`"
  have plain : afterName.kind ≠ .colon := by
    rw [show afterName.kind = .closeCurly from spells.kind_eq]
    exact nofun
  have skipped := attributes_read spells
  obtain ⟨_, bodyStart, passed, spells⟩ := spells.consume
  obtain ⟨found, closer, same, spells, given⟩ := reads bodyStart _ rest (closes_closing _) spells
  obtain ⟨next, spells, closed⟩ := closing_read spells
  refine ⟨opens_of_tag here (by rw [ahead]; decide), letBlock name found ⟨opening.span.start, next.previousEnd⟩, next,
    by rw [shape, shape, same], spells, ?_⟩
  rw [parse, here, ahead, parseLet]
  refine opened.andThen fun _ => declared.after fun _ => ?_
  refine named.after fun _ => ?_
  rw [if_neg plain]
  refine skipped.upTo fun _ => passed.after fun _ => ?_
  refine given.upTo fun _ => ?_
  exact closed.after fun _ => gives_ok _

theorem branch_read {condition : Expr} (reads : condition.ReadsBack spelling.float) (reads' : BodyReads spelling body)
    (closes : Closes words) (start : Position)
    (spells : cursor.Spells (condition.bare spelling.float ++
      (TokenKind.closeCurly.word :: (writeBlock spelling body ++ words))) rest) :
    ∃ found next, found.condition.shape = condition.shape ∧ shapes found.body = shapes body ∧ next.Spells words rest ∧
      (parseBranch start cursor).Gives found next := by
  obtain ⟨found, last, same, spells, given⟩ := reads.lowest.before spells rfl
  obtain ⟨_, bodyStart, passed, spells⟩ := spells.consume
  obtain ⟨found', next, same', spells, given'⟩ := reads' bodyStart words rest closes spells
  refine ⟨⟨found, found', ⟨start, next.previousEnd⟩⟩, next, same, same', spells, ?_⟩
  rw [parseBranch]
  refine given.andThen fun _ => passed.after fun _ => ?_
  exact given'.upTo fun _ => gives_ok _

theorem closes_chain (branches : List (Branch (List Statement))) (otherwise : Option (List Statement)) :
    Closes (writeBranches spelling .elseifWord branches ++
      (writeOptional spelling .elseWord otherwise ++ (closing .ifWord ++ words))) := by
  cases branches with
  | nil => exact closes_optional (by decide) otherwise (closes_closing .ifWord)
  | cons branch others =>
    rw [writeBranches, List.append_assoc]
    exact closes_tag (by decide) _

theorem branches_read {branches : List (Branch (List Statement))} {otherwise : Option (List Statement)}
    (reads : ∀ branch ∈ branches, BranchReads spelling branch) (reads' : ∀ body ∈ otherwise, BodyReads spelling body)
    (spells : cursor.Spells (writeBranches spelling .elseifWord branches ++
      (writeOptional spelling .elseWord otherwise ++ (closing .ifWord ++ words))) rest) :
    ∃ found last next, branchShapes found = branchShapes branches ∧ optionalShape last = optionalShape otherwise ∧
      next.Spells (closing .ifWord ++ words) rest ∧ (parseBranches cursor).Gives (found, last) next := by
  induction branches generalizing cursor with
  | nil =>
    cases otherwise with
    | none =>
      have here : cursor.kind = .closeTagOpen := spells.kind_eq
      refine ⟨[], none, cursor, rfl, rfl, spells, ?_⟩
      rw [parseBranches, if_neg (by simp [here]), if_neg (by simp [here])]
      exact gives_ok _
    | some body =>
      simp only [writeBranches, writeOptional, tag, List.cons_append, List.nil_append] at spells
      obtain ⟨here, ahead, _, _, keyword, last, opened, named, _, spells⟩ := tag_opened spells
      obtain ⟨_, bodyStart, passed, spells⟩ := spells.consume
      obtain ⟨found, next, same, spells, given⟩ := reads' body rfl bodyStart _ rest (closes_closing _) spells
      refine ⟨[], some found, next, rfl, by rw [optionalShape, optionalShape, same], spells, ?_⟩
      rw [parseBranches, if_neg (by simp [ahead]), if_pos ⟨here, ahead⟩]
      refine (opened.andThen fun _ => named.after fun _ => ?_).loosen
      refine passed.after fun _ => ?_
      exact given.upTo fun _ => gives_ok _
  | cons branch others ih =>
    rw [List.forall_mem_cons] at reads
    simp only [writeBranches, tag, List.cons_append, List.append_assoc, List.nil_append] at spells
    obtain ⟨here, ahead, opening, _, keyword, conditionStart, opened, named, _, spells⟩ := tag_opened spells
    obtain ⟨found, middle, same, same', spells, given⟩ :=
      branch_read reads.1.1 reads.1.2 (closes_chain others otherwise) opening.span.start spells
    obtain ⟨founds, last, next, sames, same'', spells, givens⟩ := ih reads.2 spells
    refine ⟨found :: founds, last, next, by rw [branchShapes, branchShapes, same, same', sames], same'', spells, ?_⟩
    rw [parseBranches, if_pos ⟨here, ahead⟩]
    refine (opened.andThen fun _ => named.after fun _ => ?_).loosen
    refine given.after fun _ => ?_
    exact givens.upTo fun _ => gives_ok _

theorem choose_reads {first : Branch (List Statement)} {branches : List (Branch (List Statement))}
    {otherwise : Option (List Statement)}
    (reads : ∀ branch ∈ first :: branches, BranchReads spelling branch)
    (reads' : ∀ body ∈ otherwise, BodyReads spelling body) :
    Reads spelling (choose (first :: branches) otherwise span) := by
  intro cursor words rest spells
  rw [List.forall_mem_cons] at reads
  simp only [write, writeBranches, tag, List.cons_append, List.append_assoc, List.nil_append] at spells
  obtain ⟨here, ahead, opening, _, keyword, conditionStart, opened, named, _, spells⟩ := tag_opened spells
  obtain ⟨found, middle, same, same', spells, given⟩ :=
    branch_read reads.1.1 reads.1.2 (closes_chain branches otherwise) opening.span.start spells
  obtain ⟨founds, last, closer, sames, same'', spells, givens⟩ := branches_read reads.2 reads' spells
  obtain ⟨next, spells, closed⟩ := closing_read spells
  refine ⟨opens_of_tag here (by rw [ahead]; decide),
    choose (found :: founds) last ⟨opening.span.start, next.previousEnd⟩, next, ?_, spells, ?_⟩
  · rw [shape, shape, branchShapes, branchShapes, same, same', sames, same'']
  rw [parse, here, ahead, parseIf]
  refine opened.andThen fun _ => named.after fun _ => ?_
  refine given.after fun _ => givens.upTo fun _ => ?_
  exact closed.after fun _ => gives_ok _

theorem ifEmpty_read {ifEmpty : Option (List Statement)} {keyword : TokenKind}
    (reads : ∀ body ∈ ifEmpty, BodyReads spelling body)
    (spells : cursor.Spells (writeOptional spelling .ifemptyWord ifEmpty ++ (closing keyword ++ words)) rest) :
    ∃ found next, optionalShape found = optionalShape ifEmpty ∧ next.Spells (closing keyword ++ words) rest ∧
      (parseIfEmpty cursor).Gives found next := by
  cases ifEmpty with
  | none =>
    have here : cursor.kind = .closeTagOpen := spells.kind_eq
    refine ⟨none, cursor, rfl, spells, ?_⟩
    rw [parseIfEmpty, if_neg (by simp [here])]
    exact gives_ok _
  | some body =>
    simp only [writeOptional, tag, List.cons_append, List.nil_append] at spells
    obtain ⟨here, ahead, _, _, word, last, opened, named, _, spells⟩ := tag_opened spells
    obtain ⟨_, bodyStart, passed, spells⟩ := spells.consume
    obtain ⟨found, next, same, spells, given⟩ := reads body rfl bodyStart _ rest (closes_closing _) spells
    refine ⟨some found, next, by rw [optionalShape, optionalShape, same], spells, ?_⟩
    rw [parseIfEmpty, if_pos ⟨here, ahead⟩]
    refine (opened.andThen fun _ => named.after fun _ => ?_).loosen
    refine passed.after fun _ => ?_
    exact given.upTo fun _ => gives_ok _

theorem foreach_reads {ifEmpty : Option (List Statement)} (reads : expr.ReadsBack spelling.float)
    (reads' : BodyReads spelling body) (reads'' : ∀ body ∈ ifEmpty, BodyReads spelling body) (var : String) :
    Reads spelling (foreach var expr body ifEmpty span) := by
  intro cursor words rest spells
  simp only [write, tag, List.cons_append, List.append_assoc, List.nil_append] at spells
  obtain ⟨here, ahead, opening, word, keyword, varStart, opened, named, loop, spells⟩ := tag_opened spells
  obtain ⟨_, afterName, called, spells⟩ := spells.consumeFor "expected loop variable"
  obtain ⟨_, iterableStart, passed, spells⟩ := spells.consume
  obtain ⟨found, last, same, spells, given⟩ := reads.lowest.before spells rfl
  obtain ⟨_, bodyStart, passed', spells⟩ := spells.consume
  have closes : Closes (writeOptional spelling .ifemptyWord ifEmpty ++ (closing (spelling.loop span) ++ words)) :=
    closes_optional (by decide) ifEmpty (closes_closing _)
  obtain ⟨found', middle, same', spells, given'⟩ := reads' bodyStart _ rest closes spells
  obtain ⟨found'', closer, same'', spells, given''⟩ := ifEmpty_read reads'' spells
  rw [← loop] at spells
  obtain ⟨next, spells, closed⟩ := closing_read spells
  have either : spelling.loop span = .forWord ∨ spelling.loop span = .foreachWord := by
    unfold Spelling.loop
    cases spelling.forLoop span
    · exact .inr rfl
    · exact .inl rfl
  have dispatch : Opens cursor ∧ parse cursor = parseForeach cursor := by
    rcases either with same | same
    all_goals
      rw [same] at ahead
      refine ⟨opens_of_tag here (by rw [ahead]; decide), ?_⟩
      rw [parse, here, ahead]
  refine ⟨dispatch.1, foreach var found found' found'' ⟨opening.span.start, next.previousEnd⟩, next,
    by rw [shape, shape, same, same', same''], spells, ?_⟩
  rw [dispatch.2, parseForeach]
  refine opened.andThen fun _ => named.after fun _ => ?_
  refine called.after fun _ => passed.after fun _ => ?_
  refine given.after fun _ => passed'.after fun _ => ?_
  refine given'.upTo fun _ => given''.upTo fun _ => ?_
  exact closed.after fun _ => gives_ok _

theorem nil_reads : BodyReads spelling [] := by
  intro cursor words rest closes spells
  refine ⟨[], cursor, rfl, spells, ?_⟩
  rw [parseBlock, if_pos (closes.atBlockEnd spells)]
  exact gives_ok _

theorem cons_reads {statement : Statement} (reads : Reads spelling statement) (reads' : BodyReads spelling body) :
    BodyReads spelling (statement :: body) := by
  intro cursor words rest closes spells
  rw [writeBlock, List.append_assoc] at spells
  obtain ⟨⟨inside, more⟩, found, middle, same, spells, given⟩ := reads cursor _ rest spells
  obtain ⟨founds, next, sames, spells, givens⟩ := reads' middle words rest closes spells
  refine ⟨found :: founds, next, by rw [shapes, shapes, same, sames], spells, ?_⟩
  rw [parseBlock, if_neg (by simp [inside]), if_neg (by simp [more])]
  refine (given.andThen fun _ => ?_).loosen
  exact givens.upTo fun _ => gives_ok _

end statements

def AllSpellable (spelling : Spelling) (exprs : List Expr) : Prop :=
  ∀ expr ∈ exprs, ∀ part ∈ expr.subterms, part.Spellable spelling.float

theorem allSpellable_cons {expr : Expr} {exprs : List Expr} : AllSpellable spelling (expr :: exprs) ↔
    (∀ part ∈ expr.subterms, part.Spellable spelling.float) ∧ AllSpellable spelling exprs := List.forall_mem_cons

theorem allSpellable_append {exprs exprs' : List Expr} : AllSpellable spelling (exprs ++ exprs') ↔
    AllSpellable spelling exprs ∧ AllSpellable spelling exprs' := List.forall_mem_append

mutual
theorem reads_back (spelling : Spelling) : ∀ statement : Statement, statement.Proper →
    AllSpellable spelling statement.expressions → Reads spelling statement
  | text value _, _, _ => text_reads value
  | print expr directives _, _, spellable =>
    print_reads (Expr.reads_back expr (allSpellable_cons.mp spellable).1) directives
  | param name kind typeExpr _, proper, _ => param_reads (TypeExpr.reads_back typeExpr proper).1 name kind
  | letValue name value _, _, spellable =>
    letValue_reads (Expr.reads_back value (allSpellable_cons.mp spellable).1) name
  | letBlock name body _, proper, spellable => letBlock_reads (body_reads_back spelling body proper spellable) name
  | choose [] _ _, proper, _ => absurd rfl proper.1
  | choose (first :: branches) otherwise _, proper, spellable => by
    rw [expressions_choose, allSpellable_append] at spellable
    exact choose_reads (branches_read_back spelling (first :: branches) proper.2.1 spellable.1)
      (optional_reads_back spelling otherwise proper.2.2 spellable.2)
  | foreach var iterable body ifEmpty _, proper, spellable => by
    rw [expressions_foreach, allSpellable_cons, allSpellable_append] at spellable
    exact foreach_reads (Expr.reads_back iterable spellable.1) (body_reads_back spelling body proper.1 spellable.2.1)
      (optional_reads_back spelling ifEmpty proper.2 spellable.2.2) var

theorem body_reads_back (spelling : Spelling) : ∀ body : List Statement, BodyProper body →
    AllSpellable spelling (bodyExpressions body) → BodyReads spelling body
  | [], _, _ => nil_reads
  | statement :: rest, proper, spellable => by
    rw [bodyExpressions, allSpellable_append] at spellable
    exact cons_reads (reads_back spelling statement proper.1 spellable.1)
      (body_reads_back spelling rest proper.2 spellable.2)

theorem branches_read_back (spelling : Spelling) : ∀ branches : List (Branch (List Statement)), BranchesProper branches →
    AllSpellable spelling (branchExpressions branches) → ∀ branch ∈ branches, BranchReads spelling branch
  | [], _, _ => nofun
  | ⟨condition, body, _⟩ :: rest, proper, spellable => by
    rw [branchExpressions, allSpellable_cons, allSpellable_append] at spellable
    rw [List.forall_mem_cons]
    exact ⟨⟨Expr.reads_back condition spellable.1, body_reads_back spelling body proper.1 spellable.2.1⟩,
      branches_read_back spelling rest proper.2 spellable.2.2⟩

theorem optional_reads_back (spelling : Spelling) : ∀ optional : Option (List Statement), OptionalProper optional →
    AllSpellable spelling (optionalExpressions optional) → ∀ body ∈ optional, BodyReads spelling body
  | none, _, _, _, missing => nomatch missing
  | some body, proper, spellable, _, given => Option.some.inj given ▸ body_reads_back spelling body proper spellable
end

end TypedTemplate.Statement
