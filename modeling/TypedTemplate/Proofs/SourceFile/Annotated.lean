import TypedTemplate.Proofs.SourceFile.Accounts
import TypedTemplate.Proofs.Statement.Inside

namespace TypedTemplate.SourceFile

open Statement (bodyInside bodyPrinted_eq bodyPrinted_sublist mem_bodyExpressions)
open TypedTemplate.Expr (idsOf map_id_sublist)

def statements (file : SourceFile) : List Statement := file.templates.flatMap fun template => bodyInside template.body

theorem mem_roots {file : SourceFile} {expr : Expr} :
    expr ∈ file.roots ↔ ∃ statement ∈ file.statements, expr ∈ statement.ownExpressions := by
  simp only [roots, statements, List.mem_flatMap, mem_bodyExpressions]
  constructor
  · rintro ⟨template, listed, statement, inside, own⟩
    exact ⟨statement, ⟨template, listed, inside⟩, own⟩
  · rintro ⟨statement, ⟨template, listed, inside⟩, own⟩
    exact ⟨template, listed, statement, inside, own⟩

theorem printed_eq (file : SourceFile) : file.printed = file.statements.filterMap Statement.printedExpr? := by
  rw [printed, statements, List.filterMap_flatMap]
  simp only [bodyPrinted_eq]

theorem printed_sublist (file : SourceFile) : file.printed.Sublist file.roots := by
  rw [printed, roots]
  induction file.templates with
  | nil => exact List.Sublist.refl _
  | cons template rest ih => exact (bodyPrinted_sublist template.body).append ih

variable (typeNamed : String → Option Ty) (signature : String → Option Signature)

theorem typeOf_check_iff (file : SourceFile) (id : Nat) :
    (∃ type, (file.check typeNamed signature).typeOf id = some type) ↔
      ∃ statement ∈ file.statements, ∃ root ∈ statement.ownExpressions, ∃ expr ∈ root.subterms, expr.id = id := by
  rw [Log.typeOf_isSome_iff, numbers_check, List.mem_reverse, idsOf, List.mem_flatMap]
  simp only [mem_roots, Expr.ids, List.mem_map]
  constructor
  · rintro ⟨root, ⟨statement, listed, own⟩, part⟩
    exact ⟨statement, listed, root, own, part⟩
  · rintro ⟨statement, listed, root, own, part⟩
    exact ⟨root, ⟨statement, listed, own⟩, part⟩

theorem printedTypes_eq (file : SourceFile) : (file.printedTypes (file.check typeNamed signature)).map some =
    file.printed.map fun expr => (file.check typeNamed signature).typeOf expr.id := by
  rw [printedTypes, List.map_map]
  refine List.map_congr_left fun expr shown => ?_
  have numbered : expr.id ∈ (file.check typeNamed signature).numbers := by
    rw [numbers_check, List.mem_reverse]
    exact (map_id_sublist _).subset (List.mem_map_of_mem ((printed_sublist file).subset shown))
  obtain ⟨type, found⟩ := Log.typeOf_isSome numbered
  simp only [Function.comp_apply, found, Option.getD_some]

-- Checking a file that was read gives types to its expressions, all of them at every depth,
-- and to nothing else. The types of what it prints are listed tag by tag, with the numbers
-- of the expressions going up, and each is the type that was found.
theorem check_annotates {tokens : List Token} {name : String} {version : Version} {file : SourceFile}
    (parsed : parse tokens name version = .ok file) :
    let log := file.check typeNamed signature
    (∀ id, (∃ type, log.typeOf id = some type) ↔
        ∃ statement ∈ file.statements, ∃ root ∈ statement.ownExpressions, ∃ expr ∈ root.subterms, expr.id = id) ∧
      file.printed = file.statements.filterMap Statement.printedExpr? ∧
      (file.printed.map Expr.id).Pairwise (· < ·) ∧
      (file.printedTypes log).map some = file.printed.map fun expr => log.typeOf expr.id := by
  refine ⟨typeOf_check_iff typeNamed signature file, printed_eq file, ?_, printedTypes_eq typeNamed signature file⟩
  have part : (file.printed.map Expr.id).Sublist (idsOf file.roots) :=
    ((printed_sublist file).map Expr.id).trans (map_id_sublist file.roots)
  exact (parse_increasing parsed).sublist part

-- `{template .t}{let $a}{f($x)}{/let}{if null}{['k': 1, 'k': -'s']}`, then
-- `{else}{foreach $i in 1}{$i}{ifempty}{-2}{/foreach}{/if}{/template}`
def wrongSource : String :=
  "\x7btemplate .t\x7d\x7blet $a\x7d\x7bf($x)\x7d\x7b/let\x7d\x7bif null\x7d\x7b['k': 1, 'k': -'s']\x7d" ++
    "\x7belse\x7d\x7bforeach $i in 1\x7d\x7b$i\x7d\x7bifempty\x7d\x7b-2\x7d\x7b/foreach\x7d\x7b/if\x7d" ++
    "\x7b/template\x7d"

def wrongTokens : List Token := (Token.tokenize wrongSource Token.defaultFile).toOption.getD []

def wrongFile : SourceFile := (parse wrongTokens Token.defaultFile .v2_4).toOption.getD ⟨none, [], .v2_4⟩

def wrongLog : Log := wrongFile.check (Context.builtin .v2_4).typeNamed (Context.builtin .v2_4).signature

theorem wrongFile_found : (parse wrongTokens Token.defaultFile .v2_4).toOption.isSome ∧
    wrongLog.diagnostics.map Diagnostic.node = [some 0, some 1, some 7, some 5, some 9] ∧
    wrongFile.statements.length = 7 ∧ wrongFile.printed.map Expr.id = [1, 8, 10, 12] ∧
    wrongFile.printedTypes wrongLog = [.unknown, .unknown, .unknown, .int] := by
  decide +kernel

-- An argument has a type where the function does not exist, and a value where its key was
-- used before, and so has what is never reached.
theorem check_annotates_wrongFile :
    parse wrongTokens Token.defaultFile .v2_4 = .ok wrongFile ∧
      wrongLog.diagnostics.map Diagnostic.node = [some 0, some 1, some 7, some 5, some 9] ∧
      (∀ id, (∃ type, wrongLog.typeOf id = some type) ↔
        ∃ statement ∈ wrongFile.statements, ∃ root ∈ statement.ownExpressions, ∃ expr ∈ root.subterms, expr.id = id) ∧
      wrongFile.statements.length = 7 ∧ wrongFile.printed = wrongFile.statements.filterMap Statement.printedExpr? ∧
      wrongFile.printed.map Expr.id = [1, 8, 10, 12] ∧
      wrongFile.printedTypes wrongLog = [.unknown, .unknown, .unknown, .int] ∧
      (wrongFile.printedTypes wrongLog).map some = wrongFile.printed.map fun expr => wrongLog.typeOf expr.id := by
  obtain ⟨found, wrong, count, numbers, types⟩ := wrongFile_found
  have parsed : parse wrongTokens Token.defaultFile .v2_4 = .ok wrongFile := parse_found found
  obtain ⟨typed, printed, _, listed⟩ :=
    check_annotates (Context.builtin .v2_4).typeNamed (Context.builtin .v2_4).signature parsed
  exact ⟨parsed, wrong, typed, count, printed, numbers, types, listed⟩

end TypedTemplate.SourceFile
