import TypedTemplate.Proofs.SourceFile.Minted
import TypedTemplate.Proofs.Statement.Accounts
import TypedTemplate.Proofs.Statement.Numbers
import TypedTemplate.SourceFile

namespace TypedTemplate.SourceFile

open TypedTemplate.Expr (idsOf distinct_append apart_append)
open Statement (bodyExpressions bodyIterables checkBlock)

def iterables (file : SourceFile) : List Expr := file.templates.flatMap fun template => bodyIterables template.body

theorem idsOf_roots (file : SourceFile) : idsOf file.roots = file.expressions.map Expr.id := by
  rw [expressions_eq, List.map_flatMap]
  rfl

theorem checkTemplates_accounts (context : Context) (all : List Expr) (templates : List Template)
    (within : (templates.flatMap fun template => bodyIterables template.body) ⊆ all)
    (distinct : ((templates.flatMap fun template => (bodyExpressions template.body).flatMap Expr.subterms).map
      Expr.id).Nodup) :
    (Log.concat (templates.map fun template => (checkBlock context .empty template.body).log)).Accounts
      (templates.flatMap fun template => (bodyExpressions template.body).flatMap Expr.subterms) all := by
  induction templates with
  | nil => exact .empty
  | cons template rest ih =>
    rw [List.flatMap_cons, List.append_subset] at within
    rw [List.flatMap_cons] at distinct ⊢
    rw [List.map_cons, Log.concat]
    have apart := distinct_append distinct
    have first := Statement.checkBlock_accounts context all template.body .empty within.1 apart.1
    exact first.append (ih within.2 apart.2) (apart_append distinct)

theorem numbers_checkTemplates (context : Context) (templates : List Template) :
    (Log.concat (templates.map fun template => (checkBlock context .empty template.body).log)).numbers =
      (idsOf (templates.flatMap fun template => bodyExpressions template.body)).reverse := by
  induction templates with
  | nil => rfl
  | cons template rest ih =>
    rw [List.map_cons, Log.concat, Log.numbers_append, ih, Statement.numbers_checkBlock, List.flatMap_cons,
      Expr.idsOf_append, List.reverse_append]

variable (typeNamed : String → Option Ty) (signature : String → Option Signature)

theorem numbers_check (file : SourceFile) : (file.check typeNamed signature).numbers = (idsOf file.roots).reverse :=
  numbers_checkTemplates _ file.templates

theorem check_distinct {tokens : List Token} {name : String} {version : Version} {file : SourceFile}
    (parsed : parse tokens name version = .ok file) : (file.check typeNamed signature).numbers.Nodup := by
  rw [numbers_check, List.nodup_reverse]
  exact parse_distinct parsed

theorem check_accounts (file : SourceFile) (distinct : (idsOf file.roots).Nodup) :
    (file.check typeNamed signature).Accounts file.expressions file.iterables := by
  rw [idsOf_roots] at distinct
  exact checkTemplates_accounts _ _ file.templates (List.Subset.refl _) distinct

-- In a file that was read no expression is blamed twice, whatever the types and functions
-- it is checked with. A diagnostic about an expression stands where the expression starts.
-- The expression has the unknown type, except if its use is at fault: then it has another
-- type, and the call or map literal that uses it has the unknown one.
theorem check_blames {tokens : List Token} {name : String} {version : Version} {file : SourceFile}
    (parsed : parse tokens name version = .ok file) :
    (file.check typeNamed signature).blamed.Nodup ∧
      ∀ diagnostic ∈ (file.check typeNamed signature).diagnostics, ∀ id, diagnostic.node = some id →
        ((file.check typeNamed signature).typeOf id = some .unknown ↔ diagnostic.fault.inUse = false) ∧
        ∃ expr ∈ file.expressions, expr.id = id ∧ diagnostic.position = expr.span.start ∧
          expr.Blamed (fun id type => (file.check typeNamed signature).typeOf id = some type)
            file.expressions file.iterables diagnostic.fault := by
  have numbers := check_distinct typeNamed signature parsed
  have accounts := check_accounts typeNamed signature file (parse_distinct parsed)
  refine ⟨accounts.distinct, fun diagnostic listed id about => ?_⟩
  obtain ⟨expr, inside, same, position, blamed⟩ := accounts.explained diagnostic listed id about
  have blamed := blamed.imp (fun _ _ recorded => Log.typeOf_of_mem numbers recorded) (List.Subset.refl _)
  subst same
  refine ⟨?_, expr, inside, rfl, position, blamed⟩
  generalize diagnostic.fault = fault at blamed
  cases blamed with
  | itself own failed => simp [own, failed]
  | argument _ _ _ typed known | key _ _ _ typed known | iterable _ typed known => simp [Fault.inUse, typed, known]

theorem parse_found {tokens : List Token} {name : String} {version : Version}
    (found : (parse tokens name version).toOption.isSome) :
    parse tokens name version = .ok ((parse tokens name version).toOption.getD ⟨none, [], version⟩) :=
  ok_of_isSome found _

-- `{template .t}{@param n: int}{strLen($n)}{['a': 1, 'a': 2]}`, then
-- `{foreach $x in $n}{$y}{/foreach}{/template}`
def faultySource : String :=
  "\x7btemplate .t\x7d\x7b@param n: int\x7d\x7bstrLen($n)\x7d\x7b['a': 1, 'a': 2]\x7d" ++
    "\x7bforeach $x in $n\x7d\x7b$y\x7d\x7b/foreach\x7d\x7b/template\x7d"

def faultyTokens : List Token := (Token.tokenize faultySource Token.defaultFile).toOption.getD []

def faultyFile : SourceFile := (parse faultyTokens Token.defaultFile .v2_4).toOption.getD ⟨none, [], .v2_4⟩

def faultyLog : Log := faultyFile.check (Context.builtin .v2_4).typeNamed (Context.builtin .v2_4).signature

theorem check_blames_faultyFile :
    parse faultyTokens Token.defaultFile .v2_4 = .ok faultyFile ∧ faultyLog.blamed = [0, 4, 7, 8] ∧
      (faultyLog.diagnostics.map fun diagnostic => diagnostic.fault.inUse) = [true, true, true, false] ∧
      ∀ diagnostic ∈ faultyLog.diagnostics, ∀ id, diagnostic.node = some id →
        (faultyLog.typeOf id = some .unknown ↔ diagnostic.fault.inUse = false) := by
  have parsed : parse faultyTokens Token.defaultFile .v2_4 = .ok faultyFile := parse_found (by decide +kernel)
  have blames := check_blames (Context.builtin .v2_4).typeNamed (Context.builtin .v2_4).signature parsed
  refine ⟨parsed, by decide +kernel, by decide +kernel, fun diagnostic listed id about => ?_⟩
  exact (blames.2 diagnostic listed id about).1

end TypedTemplate.SourceFile
