import TypedTemplate.Proofs.Expr.Dialect
import TypedTemplate.Proofs.Statement.Inside
import TypedTemplate.SourceFile

namespace TypedTemplate.Statement

open TypedTemplate.Expr (Alike infer_alike refine_alike)

def conditions : Statement → List Expr
  | choose branches _ _ => branches.map Branch.condition
  | _ => []

def isNeutral (statement : Statement) : Bool :=
  statement.ownExpressions.all Expr.isNeutral && statement.conditions.all fun condition => !condition.isReference

section

variable {version version' : Version}

theorem own_alike {statement : Statement} (alike : Alike version version' statement.isNeutral) :
    ∀ expr ∈ statement.ownExpressions, Alike version version' expr.isNeutral := fun expr own =>
  alike.imp_right fun neutral => List.all_eq_true.mp (Bool.and_eq_true_iff.mp neutral).1 expr own

theorem condition_alike {statement : Statement} (alike : Alike version version' statement.isNeutral) :
    ∀ condition ∈ statement.conditions, Alike version version' (!condition.isReference) := fun condition listed =>
  alike.imp_right fun neutral => List.all_eq_true.mp (Bool.and_eq_true_iff.mp neutral).2 condition listed

variable (typeNamed : String → Option Ty) (signature : String → Option Signature)

theorem openLoop_alike {iterable : Expr} (alike : Alike version version' iterable.isNeutral) (scope : Scope)
    (name : String) (span : Span) :
    openLoop ⟨typeNamed, signature, version⟩ scope name iterable span =
      openLoop ⟨typeNamed, signature, version'⟩ scope name iterable span := by
  rw [openLoop, openLoop, infer_alike typeNamed signature iterable scope alike]

mutual
theorem check_alike : ∀ (statement : Statement) (scope : Scope),
    (∀ deeper ∈ statement.inside, Alike version version' deeper.isNeutral) →
      statement.check ⟨typeNamed, signature, version⟩ scope = statement.check ⟨typeNamed, signature, version'⟩ scope
  | text .., _, _ | param .., _, _ => rfl
  | print expr directives span, scope, alike => by
    have own := own_alike (alike (print expr directives span) (self_mem_inside _))
    rw [check, check, infer_alike typeNamed signature expr scope (own expr List.mem_cons_self)]
  | letValue name value span, scope, alike => by
    have own := own_alike (alike (letValue name value span) (self_mem_inside _))
    rw [check, check, infer_alike typeNamed signature value scope (own value List.mem_cons_self)]
  | letBlock name body span, scope, alike => by
    rw [inside, List.forall_mem_cons] at alike
    rw [check, check, checkBlock_alike body scope.enter alike.2]
  | choose branches otherwise span, scope, alike => by
    rw [inside_choose, List.forall_mem_cons, List.forall_mem_append] at alike
    obtain ⟨own, within, last⟩ := alike
    have conditions := List.forall_mem_map.mp (own_alike own)
    have unbare := List.forall_mem_map.mp (condition_alike own)
    rw [check_choose, check_choose, checkBranches_alike branches scope.enter conditions unbare within,
      checkOptional_alike otherwise _ last]
  | foreach name iterable body ifEmpty span, scope, alike => by
    rw [inside_foreach, List.forall_mem_cons, List.forall_mem_append] at alike
    obtain ⟨own, within, last⟩ := alike
    have opened := openLoop_alike typeNamed signature (own_alike own iterable List.mem_cons_self) scope name span
    rw [check_foreach, check_foreach, opened, checkBlock_alike body _ within, checkOptional_alike ifEmpty scope last]

theorem checkBlock_alike : ∀ (body : List Statement) (scope : Scope),
    (∀ deeper ∈ bodyInside body, Alike version version' deeper.isNeutral) →
      checkBlock ⟨typeNamed, signature, version⟩ scope body = checkBlock ⟨typeNamed, signature, version'⟩ scope body
  | [], _, _ => rfl
  | statement :: rest, scope, alike => by
    rw [bodyInside, List.forall_mem_append] at alike
    rw [checkBlock, checkBlock, check_alike statement scope alike.1, checkBlock_alike rest _ alike.2]

theorem checkBranches_alike : ∀ (branches : List (Branch (List Statement))) (scope : Scope),
    (∀ branch ∈ branches, Alike version version' branch.condition.isNeutral) →
      (∀ branch ∈ branches, Alike version version' (!branch.condition.isReference)) →
      (∀ deeper ∈ branchInside branches, Alike version version' deeper.isNeutral) →
        checkBranches ⟨typeNamed, signature, version⟩ scope branches =
          checkBranches ⟨typeNamed, signature, version'⟩ scope branches
  | [], _, _, _, _ => rfl
  | ⟨condition, body, _⟩ :: rest, scope, conditions, unbare, alike => by
    rw [List.forall_mem_cons] at conditions unbare
    rw [branchInside, List.forall_mem_append] at alike
    rw [checkBranches, checkBranches, infer_alike typeNamed signature condition scope conditions.1,
      refine_alike conditions.1.own unbare.1, checkBlock_alike body _ alike.1,
      checkBranches_alike rest _ conditions.2 unbare.2 alike.2]

theorem checkOptional_alike : ∀ (body : Option (List Statement)) (scope : Scope),
    (∀ deeper ∈ optionalInside body, Alike version version' deeper.isNeutral) →
      checkOptional ⟨typeNamed, signature, version⟩ scope body =
        checkOptional ⟨typeNamed, signature, version'⟩ scope body
  | none, _, _ => rfl
  | some body, scope, alike => by
    rw [checkOptional, checkOptional, checkBlock_alike body scope.enter alike]
end

end

-- What is checked does not depend on the version, as long as it has no `and`, `or` or `not` and
-- no variable or plain field for a condition. Between versions on one side of 2.3 nothing does.
theorem checkBlock_across_versions (typeNamed : String → Option Ty) (signature : String → Option Signature)
    (version version' : Version) (scope : Scope) (body : List Statement)
    (alike : (∀ statement ∈ bodyInside body, statement.isNeutral) ∨
      (version ∈ [Version.v2_3, .v2_4] ↔ version' ∈ [Version.v2_3, .v2_4])) :
    checkBlock ⟨typeNamed, signature, version⟩ scope body = checkBlock ⟨typeNamed, signature, version'⟩ scope body := by
  refine checkBlock_alike typeNamed signature body scope fun deeper inside => ?_
  rcases alike with neutral | same
  · exact .inr (neutral deeper inside)
  · exact .of_side same

-- `{template .t}{@param a: int|null}{@param r: [b: string|null]}{if $a != null}{$a + 1}{elseif isNonnull($r.b)}
-- {$r.b}{/if}{if $r?.b}{$r.b}{/if}{$a == null ? 0 : -$a}{foreach $e in $r}{$e}{/foreach}{/template}`
def neutralSource : String :=
  "\x7btemplate .t\x7d\x7b@param a: int|null\x7d\x7b@param r: [b: string|null]\x7d\x7bif $a != null\x7d\x7b$a + 1\x7d" ++
    "\x7belseif isNonnull($r.b)\x7d\x7b$r.b\x7d\x7b/if\x7d\x7bif $r?.b\x7d\x7b$r.b\x7d\x7b/if\x7d" ++
    "\x7b$a == null ? 0 : -$a\x7d\x7bforeach $e in $r\x7d\x7b$e\x7d\x7b/foreach\x7d\x7b/template\x7d"

-- `{template .t}{@param a: string|null}{if $a}{-$a}{/if}{$a and 1}{not $a}{$a ? $a : 'b'}{/template}`
def dialectalSource : String :=
  "\x7btemplate .t\x7d\x7b@param a: string|null\x7d\x7bif $a\x7d\x7b-$a\x7d\x7b/if\x7d\x7b$a and 1\x7d\x7bnot $a\x7d" ++
    "\x7b$a ? $a : 'b'\x7d\x7b/template\x7d"

def bodyOf (source : String) : List Statement :=
  match SourceFile.ofSource source Token.defaultFile .v2_4 with
  | .ok ⟨_, [template], _⟩ => template.body
  | _ => []

def checkedIn (version : Version) (source : String) : Checked := checkBlock (.builtin version) .empty (bodyOf source)

-- The conditions of the first are no references but for a null-safe one, which tells nothing in any version.
-- The second has three kinds of what the versions differ on, and does differ where they change.
theorem checkBlock_across_versions_parsed :
    (∀ statement ∈ bodyInside (bodyOf neutralSource), statement.isNeutral) ∧
      checkedIn .v1_0 neutralSource = checkedIn .v2_4 neutralSource ∧
      (checkedIn .v2_4 neutralSource).log.types.length = 24 ∧
      ((checkedIn .v2_4 neutralSource).log.diagnostics.map fun diagnostic => diagnostic.position.offset) = [177] ∧
      checkedIn .v1_0 dialectalSource = checkedIn .v2_2 dialectalSource ∧
      (checkedIn .v2_2 dialectalSource).log.types ≠ (checkedIn .v2_3 dialectalSource).log.types ∧
      checkedIn .v2_3 dialectalSource = checkedIn .v2_4 dialectalSource := by
  obtain ⟨neutral, types, found⟩ : (∀ statement ∈ bodyInside (bodyOf neutralSource), statement.isNeutral) ∧
      (checkedIn .v2_4 neutralSource).log.types.length = 24 ∧
      ((checkedIn .v2_4 neutralSource).log.diagnostics.map fun diagnostic => diagnostic.position.offset) = [177] := by
    decide +kernel
  refine ⟨neutral, ?_, types, found, ?_, by decide +kernel, ?_⟩
  · exact checkBlock_across_versions _ _ .v1_0 .v2_4 .empty _ (.inl neutral)
  · exact checkBlock_across_versions _ _ .v1_0 .v2_2 .empty _ (.inr (by decide))
  · exact checkBlock_across_versions _ _ .v2_3 .v2_4 .empty _ (.inr (by decide))

end TypedTemplate.Statement
