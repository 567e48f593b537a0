import TypedTemplate.Proofs.Expr.Findings
import TypedTemplate.Proofs.Session.Walk
import TypedTemplate.Proofs.SourceFile.Accounts

namespace TypedTemplate

namespace Log

theorem diagnostics_concat (logs : List Log) : (concat logs).diagnostics = logs.flatMap diagnostics := by
  induction logs with
  | nil => rfl
  | cons log rest ih => rw [concat, diagnostics_append, ih, List.flatMap_cons]

theorem types_subset_concat {log : Log} {logs : List Log} (listed : log ∈ logs) : log.types ⊆ (concat logs).types := by
  induction logs with
  | nil => cases listed
  | cons first rest ih =>
    intro entry found
    rw [concat, mem_types_append]
    rcases List.mem_cons.mp listed with rfl | later
    · exact .inl found
    · exact .inr (ih later found)

end Log

namespace Session

-- One session serves template after template: the scope starts anew with each of them, and
-- what was found before is still there.
def performTemplate (context : Context) (session : Session) (template : Template) : Session :=
  performBlock context { session with scope := .empty } template.body

theorem performTemplate_log (context : Context) (session : Session) (template : Template) :
    (session.performTemplate context template).log =
      session.log ++ (Statement.checkBlock context .empty template.body).log := by
  rw [performTemplate, performBlock_eq_checkBlock, checkBlock]

theorem performTemplates_log (context : Context) (templates : List Template) (session : Session) :
    (templates.foldl (performTemplate context) session).log = session.log ++
      .concat (templates.map fun template => (Statement.checkBlock context .empty template.body).log) := by
  induction templates generalizing session with
  | nil => exact (Log.append_empty _).symm
  | cons template rest ih =>
    rw [List.foldl_cons, ih, performTemplate_log, Log.append_assoc, List.map_cons, Log.concat]

end Session

namespace SourceFile

variable (typeNamed : String → Option Ty) (signature : String → Option Signature)

def perform (file : SourceFile) : Session :=
  file.templates.foldl (Session.performTemplate ⟨typeNamed, signature, file.version⟩) .start

def only (file : SourceFile) (template : Template) : SourceFile := { file with templates := [template] }

theorem perform_log (file : SourceFile) : (file.perform typeNamed signature).log = file.check typeNamed signature :=
  (Session.performTemplates_log _ _ _).trans (Log.empty_append _)

theorem check_only (file : SourceFile) (template : Template) : (file.only template).check typeNamed signature =
    (Statement.checkBlock ⟨typeNamed, signature, file.version⟩ .empty template.body).log := Log.append_empty _

theorem check_eq_concat (file : SourceFile) : file.check typeNamed signature =
    .concat (file.templates.map fun template => (file.only template).check typeNamed signature) := by
  simp only [check_only]
  rfl

-- The templates of a file that was read do not depend on one another, though they are
-- checked in one session: in all of them is wrong what is wrong in each by itself, in the
-- order of the templates, and every expression has the type it has there.
theorem templates_independent {tokens : List Token} {name : String} {version : Version} {file : SourceFile}
    (parsed : parse tokens name version = .ok file) :
    let whole := (file.perform typeNamed signature).log
    let alone (template : Template) := ((file.only template).perform typeNamed signature).log
    (whole = file.check typeNamed signature ∧
        ∀ template, alone template = (file.only template).check typeNamed signature) ∧
      whole.diagnostics = file.templates.flatMap (fun template => (alone template).diagnostics) ∧
      ∀ template ∈ file.templates, (alone template).TypesAlike whole (file.only template).expressions := by
  intro whole alone
  have separate : whole = .concat (file.templates.map alone) := by
    simp only [whole, alone, perform_log]
    exact check_eq_concat typeNamed signature file
  refine ⟨⟨perform_log .., fun template => perform_log ..⟩, ?_, fun template listed => ?_⟩
  · rw [separate, Log.diagnostics_concat, List.flatMap_map]
  · have distinct : whole.numbers.Nodup := by
      simp only [whole, perform_log]
      exact check_distinct typeNamed signature parsed
    refine .of_subset ?_ distinct fun term inside => ?_
    · rw [separate]
      exact Log.types_subset_concat (List.mem_map_of_mem listed)
    · simp only [alone, perform_log]
      rw [numbers_check, List.mem_reverse, idsOf_roots]
      exact List.mem_map_of_mem inside

-- `{template .a}{@param x: int|null}{if $x}{$x.n}{/if}{let $y: 1 /}{/template}`, then
-- `{template .b}{@param x: string}{$y}{$x}{/template}`
def sharedNamesSource : String :=
  "\x7btemplate .a\x7d\x7b@param x: int|null\x7d\x7bif $x\x7d\x7b$x.n\x7d\x7b/if\x7d\x7blet $y: 1 /\x7d" ++
    "\x7b/template\x7d\x7btemplate .b\x7d\x7b@param x: string\x7d\x7b$y\x7d\x7b$x\x7d\x7b/template\x7d"

def sharedNamesTokens : List Token := (Token.tokenize sharedNamesSource Token.defaultFile).toOption.getD []

def sharedNamesFile : SourceFile :=
  (parse sharedNamesTokens Token.defaultFile .v2_4).toOption.getD ⟨none, [], .v2_4⟩

def sharedNamesLog : Log :=
  (sharedNamesFile.perform (Context.builtin .v2_4).typeNamed (Context.builtin .v2_4).signature).log

theorem sharedNames_found : (parse sharedNamesTokens Token.defaultFile .v2_4).toOption.isSome ∧
    sharedNamesFile.templates.length = 2 ∧ sharedNamesLog.diagnostics.map Diagnostic.node = [some 2, some 4] ∧
    sharedNamesLog.typeOf 1 = some .int ∧ sharedNamesLog.typeOf 5 = some .string := by
  decide +kernel

theorem templates_independent_sharedNames :
    parse sharedNamesTokens Token.defaultFile .v2_4 = .ok sharedNamesFile ∧ sharedNamesFile.templates.length = 2 ∧
      sharedNamesLog.diagnostics.map Diagnostic.node = [some 2, some 4] ∧
      sharedNamesLog.typeOf 1 = some .int ∧ sharedNamesLog.typeOf 5 = some .string ∧
      ∀ template ∈ sharedNamesFile.templates,
        ((sharedNamesFile.only template).perform (Context.builtin .v2_4).typeNamed
          (Context.builtin .v2_4).signature).log.TypesAlike sharedNamesLog (sharedNamesFile.only template).expressions := by
  obtain ⟨found, several, wrong, first, second⟩ := sharedNames_found
  have parsed : parse sharedNamesTokens Token.defaultFile .v2_4 = .ok sharedNamesFile := parse_found found
  have independent := templates_independent (Context.builtin .v2_4).typeNamed (Context.builtin .v2_4).signature parsed
  exact ⟨parsed, several, wrong, first, second, independent.2.2⟩

end SourceFile
end TypedTemplate
