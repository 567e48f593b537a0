import TypedTemplate.Proofs.SourceFile.Accounts
import TypedTemplate.Proofs.Statement.Phrase

namespace TypedTemplate

open Cursor Parsed Statement

inductive Template.Phrase : List Token → Template → Prop
  | template {opening word closing slash again last : Token} {tokens tokens' tokens'' : List Token} {name : String}
    {body : List Statement} (opened : [opening, word].map Token.kind = [.openCurly, .templateWord])
    (named : NamePhrase tokens name) (attributes : AttributesPhrase tokens') (ended : closing.kind = .closeCurly)
    (inside : BodyPhrase tokens'' body)
    (closed : [slash, again, last].map Token.kind = [.closeTagOpen, .templateWord, .closeCurly]) :
    Template.Phrase (opening :: word :: (tokens ++ (tokens' ++ closing :: (tokens'' ++ [slash, again, last]))))
      ⟨name, body, ⟨opening.span.start, last.span.stop⟩⟩

theorem Template.Phrase.inner {tokens : List Token} {template : Template} (read : template.Phrase tokens) :
    Token.Inner tokens := by
  cases read with
  | template opened named attributes ended inside closed =>
    have closing := Token.inner_of_kinds closed (by decide)
    simpa [named.inner, attributes.inner, ended, inside.inner, closing] using Token.inner_of_kinds opened (by decide)

namespace SourceFile

-- The tokens of a file, with the names that its tags give to the package and its templates.
-- Text between the tags leaves nothing behind.
inductive PiecesPhrase : List Token → List String → List Template → Prop
  | none : PiecesPhrase [] [] []
  | text {token : Token} {tokens : List Token} {names : List String} {templates : List Template}
    (kind : token.kind = .text) (others : PiecesPhrase tokens names templates) :
    PiecesPhrase (token :: tokens) names templates
  | package {opening word closing : Token} {tokens tokens' tokens'' : List Token} {name : String} {names : List String}
    {templates : List Template} (opened : [opening, word].map Token.kind = [.openCurly, .namespaceWord])
    (named : NamePhrase tokens name) (attributes : AttributesPhrase tokens') (closed : closing.kind = .closeCurly)
    (others : PiecesPhrase tokens'' names templates) :
    PiecesPhrase (opening :: word :: (tokens ++ (tokens' ++ closing :: tokens''))) (name :: names) templates
  | template {tokens tokens' : List Token} {template : Template} {names : List String} {templates : List Template}
    (read : template.Phrase tokens) (others : PiecesPhrase tokens' names templates) :
    PiecesPhrase (tokens ++ tokens') names (template :: templates)

theorem PiecesPhrase.inner {tokens : List Token} {names : List String} {templates : List Template}
    (read : PiecesPhrase tokens names templates) : Token.Inner tokens := by
  induction read with
  | none => exact Token.inner_nil
  | text kind _ ih => simp [kind, ih]
  | package opened named attributes closed _ ih =>
    simpa [named.inner, attributes.inner, closed, ih] using Token.inner_of_kinds opened (by decide)
  | template read _ ih => simp [read.inner, ih]

def Phrase (tokens : List Token) (file : SourceFile) : Prop :=
  ∃ names, PiecesPhrase tokens names file.templates ∧ file.packageName = names.getLast?

variable {all : List Token}

theorem parsePackageName_obeys {cursor : Cursor} (within : cursor.ahead ⊆ all) :
    (parsePackageName cursor).Obeys all cursor fun front name => ∀ {tokens names templates},
      PiecesPhrase tokens names templates → PiecesPhrase (front ++ tokens) (name :: names) templates := by
  refine (consume_obeys within _).andThen ?_
  rintro opening keyword - _ passed ⟨rfl, opens⟩
  refine (consume_obeys passed.within _).after ?_
  rintro word nameStart - _ passed ⟨rfl, asks⟩
  refine (parseName_obeys passed.within).after ?_
  rintro name afterName - front passed named
  refine (parseAttributes_obeys passed.within).upTo ?_
  rintro _ last - front' passed attributes
  refine (consume_obeys passed.within _).after ?_
  rintro closing done - _ passed ⟨rfl, closed⟩
  refine obeys_ok passed.within fun others => ?_
  have opened : [opening, word].map Token.kind = [.openCurly, .namespaceWord] := by simp [opens, asks]
  simpa using PiecesPhrase.package opened named attributes closed others

theorem parseTemplate_obeys {cursor : Cursor} (within : cursor.ahead ⊆ all) :
    (parseTemplate cursor).Obeys all cursor Template.Phrase := by
  refine (consume_obeys within _).andThen ?_
  rintro opening keyword - _ passed ⟨rfl, opens⟩
  refine (consume_obeys passed.within _).after ?_
  rintro word nameStart - _ passed ⟨rfl, asks⟩
  refine (parseName_obeys passed.within).after ?_
  rintro name afterName - tokens passed named
  refine (parseAttributes_obeys passed.within).upTo ?_
  rintro _ last - tokens' passed attributes
  refine (consume_obeys passed.within _).after ?_
  rintro closing bodyStart - _ passed ⟨rfl, ended⟩
  refine (parseBlock_obeys passed.within).upTo ?_
  rintro body next - tokens'' passed inside
  refine (parseClosing_obeys _ passed.within).after ?_
  rintro _ done - _ passed ⟨slash, again, last, rfl, closed⟩
  rw [passed.stop]
  exact obeys_ok passed.within (.template (by simp [opens, asks]) named attributes ended inside closed)

theorem parseRest_obeys {cursor : Cursor} (version : Version) (packageName : Option String)
    (within : cursor.ahead ⊆ all) : (parseRest version packageName cursor).Obeys all cursor fun tokens file =>
      file.version = version ∧ ∃ names, PiecesPhrase tokens names file.templates ∧
        file.packageName = names.getLast?.or packageName := by
  rw [parseRest]
  split
  · exact obeys_ok within ⟨rfl, [], .none, rfl⟩
  split
  · apply Obeys.loosen
    refine (consume_obeys within _).andThen ?_
    rintro token next - _ passed ⟨rfl, kind⟩
    refine (parseRest_obeys version packageName passed.within).upTo ?_
    rintro file done - tokens passed ⟨same, names, read, named⟩
    refine obeys_ok passed.within ⟨same, names, ?_, named⟩
    rw [List.append_nil]
    exact .text kind read
  split
  · apply Obeys.loosen
    refine (parsePackageName_obeys within).andThen ?_
    rintro name next - front passed package
    refine (parseRest_obeys version (some name) passed.within).upTo ?_
    rintro file done - tokens passed ⟨same, names, read, named⟩
    refine obeys_ok passed.within ⟨same, name :: names, ?_, ?_⟩
    · rw [List.append_nil]
      exact package read
    · rw [named, List.getLast?_cons]
      cases names.getLast? <;> rfl
  split
  · apply Obeys.loosen
    refine (parseTemplate_obeys within).andThen ?_
    rintro template next - tokens passed read
    refine (parseRest_obeys version packageName passed.within).upTo ?_
    rintro file done - tokens' passed ⟨same, names, others, named⟩
    refine obeys_ok passed.within ⟨same, names, ?_, named⟩
    rw [List.append_nil]
    exact .template read others
  · exact obeys_error within rfl
termination_by cursor.size

theorem parseRest_ends (version : Version) (packageName : Option String) (cursor : Cursor) :
    (parseRest version packageName cursor).Ensures fun _ next => next.kind = .eof := by
  rw [parseRest]
  split
  · rename_i ends
    show cursor.kind = .eof
    simpa [hasTokens] using ends
  split
  · apply Ensures.loosen
    refine (cursor.consume_keeps _).andThen fun _ next shorter _ => ?_
    exact (parseRest_ends version packageName next).upTo fun _ _ _ ends => ends
  split
  · apply Ensures.loosen
    refine (parsePackageName_keeps cursor).andThen fun name next shorter _ => ?_
    exact (parseRest_ends version (some name) next).upTo fun _ _ _ ends => ends
  split
  · apply Ensures.loosen
    refine (parseTemplate_minted cursor).andThen fun template next shorter _ => ?_
    exact (parseRest_ends version packageName next).upTo fun _ _ _ ends => ends
  · trivial
termination_by cursor.size

theorem parse_pieces {tokens : List Token} {name : String} {version : Version} {file : SourceFile}
    (parsed : parse tokens name version = .ok file) : file.version = version ∧
      ∃ names, PiecesPhrase (Token.beforeEnd tokens) names file.templates ∧ file.packageName = names.getLast? := by
  have obeys := parseRest_obeys version none (List.Subset.refl (start tokens name).ahead)
  obtain ⟨front, next, passed, ⟨same, names, read, named⟩, ends⟩ :=
    obeys.of_ok (parseRest_ends version none (.start tokens name)) parsed
  have whole : Token.beforeEnd tokens = front := by
    rw [← beforeEnd_start tokens name, passed.rest]
    exact Token.beforeEnd_append read.inner (by rwa [← kind_eq_ahead])
  refine ⟨same, names, whole ▸ read, ?_⟩
  rw [named, Option.or_none]

-- Reading a file loses no token before the end. The tokens are those of the file that is
-- read, with nothing among them but what leaves nothing behind, and each tag that opens a
-- template, a `let`, an `if` or a loop has the one that closes it.
theorem parse_phrase {tokens : List Token} {name : String} {version : Version} {file : SourceFile}
    (parsed : parse tokens name version = .ok file) : file.Phrase (Token.beforeEnd tokens) ∧ file.version = version :=
  ⟨(parse_pieces parsed).2, (parse_pieces parsed).1⟩

-- `a{namespace x a="b"}b{template .t k="v"}{print ($a + 2)|cut: 8, true|trim}{f([1, 2,],)}`, then
-- `{for $i in [:]}{let $x: -$i?.k /}{ifempty}{/for}{/template}{namespace y.z}`, the end, and `)` behind it
def strewnTokens : List Token :=
  let source := "a\x7bnamespace x a=\"b\"\x7db\x7btemplate .t k=\"v\"\x7d\x7bprint ($a + 2)|cut: 8, true|trim\x7d" ++
    "\x7bf([1, 2,],)\x7d\x7bfor $i in [:]\x7d\x7blet $x: -$i?.k /\x7d\x7bifempty\x7d\x7b/for\x7d\x7b/template\x7d" ++
    "\x7bnamespace y.z\x7d"
  (Token.tokenize source Token.defaultFile).toOption.getD [] ++ [⟨.closeParen, ")", .nowhere⟩]

def strewnFile : SourceFile := (parse strewnTokens Token.defaultFile .v2_4).toOption.getD ⟨none, [], .v2_4⟩

theorem parse_phrase_strewnFile : parse strewnTokens Token.defaultFile .v2_4 = .ok strewnFile ∧
    (Token.beforeEnd strewnTokens).map Token.value = ["a", "\x7b", "namespace", "x", "a", "=", "b", "\x7d", "b",
      "\x7b", "template", ".", "t", "k", "=", "v", "\x7d",
      "\x7b", "print", "(", "a", "+", "2", ")", "|", "cut", ":", "8", ",", "true", "|", "trim", "\x7d",
      "\x7b", "f", "(", "[", "1", ",", "2", ",", "]", ",", ")", "\x7d",
      "\x7b", "for", "i", "in", "[", ":", "]", "\x7d", "\x7b", "let", "x", ":", "-", "i", "?.", "k", "/\x7d",
      "\x7b", "ifempty", "\x7d", "\x7b/", "for", "\x7d", "\x7b/", "template", "\x7d",
      "\x7b", "namespace", "y", ".", "z", "\x7d"] ∧
    strewnFile.packageName = some "y.z" ∧ strewnFile.Phrase (Token.beforeEnd strewnTokens) := by
  have parsed : parse strewnTokens Token.defaultFile .v2_4 = .ok strewnFile := parse_found (by decide +kernel)
  exact ⟨parsed, by decide +kernel, by decide +kernel, (parse_phrase parsed).1⟩

end SourceFile
end TypedTemplate
