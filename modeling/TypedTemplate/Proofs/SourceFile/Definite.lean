import TypedTemplate.Proofs.SourceFile.Accounts
import TypedTemplate.Proofs.Statement.Kept

namespace TypedTemplate

open Ty (Normal Definite Kept)

namespace Ty

theorem assignable_to_number {source : Ty} (flat : source.isAlternative) (fits : assignable source (union [int, float])) :
    source.isNumber := by
  cases source with
  | int | float => rfl
  | unknown | union => cases flat
  | _ => simp [leavesOf, isUnknown] at fits

theorem isNumeric_of_assignable {type : Ty} (normal : Normal type) (known : type ≠ unknown)
    (fits : assignable type (union [int, float])) : type.isNumeric := by
  rw [isNumeric, List.all_eq_true]
  intro member present
  exact assignable_to_number (normal.members_flat known present) (assignable_iff_members.mp fits member present)

theorem arithmetic_of_numeric (operator : BinaryOperator) {a b : Ty} (first : a.isNumeric) (second : b.isNumeric) :
    ∃ result, arithmetic operator a b = .ok result := by
  rw [arithmetic_eq]
  split
  · exact ⟨_, rfl⟩
  split
  · exact ⟨_, rfl⟩
  rw [if_pos ⟨first, second⟩]
  exact ⟨_, rfl⟩

end Ty

namespace Signature

def number : Ty := .union [.int, .float]

-- The result of a function is known by itself, or got from arguments that have to be
-- given: it is one of them, or the sum of two numbers.
def Settled (signature : Signature) : Prop :=
  match signature.result with
  | .fixed type => Normal type ∧ Definite type
  | .argument index => index < signature.required
  | .keysOf _ => False
  | .numeric left right => (left < signature.required ∧ signature.params[left]? = some number) ∧
      right < signature.required ∧ signature.params[right]? = some number

section

variable {signature : Signature} {types : List Ty} (accepts : signature.Accepts types)
include accepts

theorem Accepts.given {index : Nat} (asked : index < signature.required) :
    types[index]? = some (types.getD index .unknown) := by
  have inside : index < types.length := Nat.lt_of_lt_of_le asked accepts.enough
  rw [List.getD_eq_getElem?_getD, List.getElem?_eq_getElem inside, Option.getD_some]

theorem Accepts.fits {index : Nat} {param : Ty} (asked : index < signature.required)
    (expected : signature.params[index]? = some param) : Ty.assignable (types.getD index .unknown) param := by
  refine accepts.fit (types.getD index .unknown, param) (List.mem_of_getElem? (i := index) ?_)
  rw [List.getElem?_zip_eq_some]
  exact ⟨accepts.given asked, expected⟩

theorem Settled.resultType (settled : signature.Settled) (holds : ∀ type ∈ types, Normal type ∧ Definite type) :
    Normal (signature.resultType types) ∧ Definite (signature.resultType types) := by
  unfold Settled at settled
  unfold Signature.resultType
  cases shape : signature.result with
  | fixed type =>
    rw [shape] at settled
    exact settled
  | argument index =>
    rw [shape] at settled
    exact holds _ (List.mem_of_getElem? (accepts.given settled))
  | keysOf index =>
    rw [shape] at settled
    exact settled.elim
  | numeric left right =>
    rw [shape] at settled
    obtain ⟨⟨asked, expected⟩, asked', expected'⟩ := settled
    have first := holds _ (List.mem_of_getElem? (accepts.given asked))
    have second := holds _ (List.mem_of_getElem? (accepts.given asked'))
    obtain ⟨result, sum⟩ := Ty.arithmetic_of_numeric .plus
      (Ty.isNumeric_of_assignable first.1 first.2.ne_unknown (accepts.fits asked expected))
      (Ty.isNumeric_of_assignable second.1 second.2.ne_unknown (accepts.fits asked' expected'))
    dsimp only
    rw [sum]
    exact Kept.definite.arithmetic first second sum

end

theorem builtin_settled : ∀ entry ∈ builtin, entry.1 ≠ "keys" → entry.2.Settled := by
  have number : Ty.unionOf [.int, .float] = number := rfl
  have bool := Kept.definite.bool
  have int := Kept.definite.int
  have string := Kept.definite.string
  have integers := Kept.definite.list.mpr int
  have optional := Kept.definite.nullable int
  have optional' := Kept.definite.nullable Kept.definite.float
  simp only [builtin, number, List.forall_mem_cons, List.not_mem_nil, false_implies, implies_true, and_true]
  repeat' apply And.intro
  all_goals
    intro other
    simp_all [Settled, ofParams, withRequired]

end Signature

theorem Context.keeps_definite (typeNamed : String → Option Ty) (version : Version) :
    (Context.mk typeNamed (fun name => Signature.builtin.lookup name) version).Keeps
      fun type => Normal type ∧ Definite type := by
  intro name signature types named accepts holds allowed
  have other : name ≠ "keys" := allowed.resolve_left fun unknown => unknown.2.ne_unknown rfl
  exact (Signature.builtin_settled _ (Sorted.mem_of_lookup named) other).resultType accepts holds

namespace SourceFile

open Statement (bodyAnnotations bodyExpressions checkBlock)

def annotations (file : SourceFile) : List TypeExpr := file.templates.flatMap fun template => bodyAnnotations template.body

theorem checkTemplates_kept {among : Ty → Prop} {context : Context} (kept : Kept among) (keeps : context.Keeps among)
    (templates : List Template)
    (stands : ∀ typeExpr ∈ templates.flatMap fun template => bodyAnnotations template.body,
      typeExpr.StandsAmong context.typeNamed among)
    (fine : (Log.concat (templates.map fun template => (checkBlock context .empty template.body).log)).Fine among
      (templates.flatMap fun template => (bodyExpressions template.body).flatMap Expr.subterms)) :
    (Log.concat (templates.map fun template => (checkBlock context .empty template.body).log)).Each among := by
  induction templates with
  | nil => exact .empty
  | cons template rest ih =>
    rw [List.flatMap_cons, List.forall_mem_append] at stands
    rw [List.map_cons, Log.concat, List.flatMap_cons] at fine
    rw [List.map_cons, Log.concat]
    have first := Statement.checkBlock_kept kept keeps template.body .empty stands.1 fine.append.1
    exact first.recorded.append (ih stands.2 fine.append.2)

-- The unknown type does not come up by itself. If every annotation means a type in which
-- nothing is unknown, no expression leaves its type open and nothing is found wrong, then
-- every expression is recorded with a type in which nothing is unknown.
theorem check_definite (file : SourceFile) (typeNamed : String → Option Ty)
    (annotated : ∀ typeExpr ∈ file.annotations,
      ∃ type, typeExpr.resolve typeNamed = .ok type ∧ type.Normal ∧ type.Definite)
    (explicit : ∀ expr ∈ file.expressions, expr.explicit)
    (right : (file.check typeNamed fun name => Signature.builtin.lookup name).diagnostics = []) :
    ∀ expr ∈ file.expressions, ∃ type,
      (file.check typeNamed fun name => Signature.builtin.lookup name).typeOf expr.id = some type ∧ type.Definite := by
  have stands : ∀ typeExpr ∈ file.annotations, typeExpr.StandsAmong typeNamed fun type => Normal type ∧ Definite type := by
    intro typeExpr listed type resolved
    obtain ⟨type', resolved', holds⟩ := annotated typeExpr listed
    rw [resolved] at resolved'
    cases resolved'
    exact holds
  have recorded := checkTemplates_kept Kept.definite (Context.keeps_definite typeNamed file.version) file.templates stands
    (.inr ⟨right, explicit⟩)
  intro expr inside
  have numbered : expr.id ∈ (file.check typeNamed fun name => Signature.builtin.lookup name).numbers := by
    rw [numbers_check, List.mem_reverse, idsOf_roots]
    exact List.mem_map_of_mem inside
  obtain ⟨type, found⟩ := Log.typeOf_isSome numbered
  exact ⟨type, found, (Log.Each.typeOf recorded found).2⟩

-- `{template .t}{@param names: list<string>|null}{@param? n: int}`, then
-- `{if isNonnull($names)}{foreach $x in $names}{strLen($x) + 1}{/foreach}`, then
-- `{else}{['a': $n ?: 0].a}{/if}{max(1, 2.5)}{/template}`
def definiteSource : String :=
  "\x7btemplate .t\x7d\x7b@param names: list<string>|null\x7d\x7b@param? n: int\x7d" ++
    "\x7bif isNonnull($names)\x7d\x7bforeach $x in $names\x7d\x7bstrLen($x) + 1\x7d\x7b/foreach\x7d" ++
    "\x7belse\x7d\x7b['a': $n ?: 0].a\x7d\x7b/if\x7d\x7bmax(1, 2.5)\x7d\x7b/template\x7d"

def definiteFile : SourceFile :=
  (ofSource definiteSource Token.defaultFile .v2_4).toOption.getD ⟨none, [], .v2_4⟩

def definiteLog : Log := definiteFile.check Registry.builtin.typeNamed fun name => Signature.builtin.lookup name

theorem definiteFile_right :
    (definiteFile.annotations.map fun typeExpr => (typeExpr.resolve Registry.builtin.typeNamed).toOption) =
        [some (.union [.null, .list .string]), some .int] ∧
      (∀ expr ∈ definiteFile.expressions, expr.explicit) ∧ definiteLog.diagnostics = [] ∧
      definiteFile.expressions.length = 16 := by
  decide +kernel

theorem definiteFile_annotated : ∀ typeExpr ∈ definiteFile.annotations,
    ∃ type, typeExpr.resolve Registry.builtin.typeNamed = .ok type ∧ type.Normal ∧ type.Definite := by
  intro typeExpr listed
  have means := List.mem_map_of_mem (f := fun typeExpr : TypeExpr =>
    (typeExpr.resolve Registry.builtin.typeNamed).toOption) listed
  rw [definiteFile_right.1] at means
  cases resolved : typeExpr.resolve Registry.builtin.typeNamed with
  | error diagnostic => simp [resolved, Except.toOption] at means
  | ok type =>
    refine ⟨type, rfl, ?_⟩
    rw [resolved] at means
    have optional := Kept.definite.nullable (Kept.definite.list.mpr Kept.definite.string)
    rcases List.mem_cons.mp means with same | later
    · cases same
      exact optional
    · cases List.mem_singleton.mp later
      exact Kept.definite.int

theorem check_definite_definiteFile :
    (∀ typeExpr ∈ definiteFile.annotations,
      ∃ type, typeExpr.resolve Registry.builtin.typeNamed = .ok type ∧ type.Normal ∧ type.Definite) ∧
      (∀ expr ∈ definiteFile.expressions, expr.explicit) ∧ definiteLog.diagnostics = [] ∧
      definiteFile.expressions.length = 16 ∧
      ∀ expr ∈ definiteFile.expressions, ∃ type, definiteLog.typeOf expr.id = some type ∧ type.Definite := by
  obtain ⟨_, explicit, right, count⟩ := definiteFile_right
  exact ⟨definiteFile_annotated, explicit, right, count,
    check_definite definiteFile Registry.builtin.typeNamed definiteFile_annotated explicit right⟩

end SourceFile
end TypedTemplate
