import TypedTemplate.Context
import TypedTemplate.Proofs.Ty.Operation
import TypedTemplate.Proofs.TypeExpr.Resolve

namespace TypedTemplate

open Ty (Normal)

-- What the rules for expressions need to know of a context: all types in it are
-- normal, `?` is the unknown type and only `keys` asks for the keys of an argument.
def ResultRule.Regular (name : String) : ResultRule → Prop
  | .fixed type => type.Normal
  | .keysOf index => name = "keys" ∧ index = 0
  | _ => True

structure Signature.Regular (name : String) (signature : Signature) : Prop where
  params : ∀ param ∈ signature.params, param.Normal
  result : signature.result.Regular name

structure Context.Regular (context : Context) : Prop where
  named : ∀ {name : String} {type : Ty}, context.typeNamed name = some type → type.Normal
  unknown : context.typeNamed "?" = some .unknown
  signature : ∀ {name : String} {signature : Signature}, context.signature name = some signature → signature.Regular name

namespace Registry

theorem typeNamed_builtin (name : String) : builtin.typeNamed name = builtin.named.lookup name := by
  rw [typeNamed]
  show builtin.lookup (fun _ => none) name.toList = _
  rw [lookup, String.ofList_toList]
  cases builtin.named.lookup name <;> rfl

theorem typeNamed_builtin_normal {name : String} {type : Ty} (found : builtin.typeNamed name = some type) :
    type.Normal := by
  rw [typeNamed_builtin] at found
  have listed := Sorted.mem_entries (Sorted.mem_of_lookup found)
  simp only [List.mem_cons, Prod.mk.injEq, List.not_mem_nil, or_false] at listed
  rcases listed with ⟨_, same⟩ | ⟨_, same⟩ | ⟨_, same⟩ | ⟨_, same⟩ | ⟨_, same⟩ | ⟨_, same⟩
  all_goals
    rw [same]
    constructor

end Registry

namespace Signature

theorem number_normal : Normal (Ty.unionOf [.int, .float]) :=
  Ty.normal_unionOf (Ty.normal_pair .int .float)

theorem builtin_regular : ∀ entry ∈ builtin, entry.2.Regular entry.1 := by
  have optional {type : Ty} (normal : Normal type) : Normal type.nullable := Ty.normal_nullable normal
  simp only [builtin, List.forall_mem_cons, List.not_mem_nil, false_implies, implies_true, and_true]
  repeat' apply And.intro
  all_goals
    constructor <;> simp [ofParams, withRequired, ResultRule.Regular, number_normal, Normal.unknown, Normal.bool,
        Normal.int, Normal.float, Normal.string, Normal.list, optional]

end Signature

theorem Context.builtin_regular (version : Version) : (Context.builtin version).Regular where
  named := Registry.typeNamed_builtin_normal
  unknown := by
    show Registry.builtin.typeNamed "?" = some .unknown
    rw [Registry.typeNamed_builtin]
    rfl
  signature found := Signature.builtin_regular _ (Sorted.mem_of_lookup found)

theorem Ty.normal_ofFields {fields : List (String × Ty)} (normal : ∀ field ∈ fields, field.2.Normal) :
    (Ty.ofFields fields).Normal :=
  .record (Sorted.entries_increasing fields) fun field present => normal field (Sorted.mem_entries present)

namespace TypeExpr

theorem map_ok {α β : Type} {f : α → β} {rule : Except Diagnostic α} {result : β} (found : rule.map f = .ok result) :
    ∃ value, rule = .ok value ∧ f value = result := by
  cases rule with
  | error diagnostic => cases found
  | ok value => cases found; exact ⟨value, rfl, rfl⟩

mutual
theorem resolve_normal {typeNamed : String → Option Ty}
    (named : ∀ name type, typeNamed name = some type → type.Normal) :
    ∀ (typeExpr : TypeExpr) {type : Ty}, typeExpr.resolve typeNamed = .ok type → type.Normal
  | .named name position, type, found => by
    rw [resolve] at found
    split at found
    · rename_i known
      cases found
      exact named name type known
    · cases found
  | generic name args position, type, found => by
    by_cases taken : (Demand.takes name args position).Met typeNamed
    · match name, args, taken, found with
      | _, [element], .inl ⟨rfl, _⟩, found =>
        rw [resolve] at found
        obtain ⟨part, resolved, same⟩ := map_ok found
        subst same
        exact .list (resolve_normal named element resolved)
      | _, [key, value], .inr ⟨rfl, _⟩, found =>
        rw [resolve] at found
        split at found
        · cases found
        · rename_i keyType first
          obtain ⟨valueType, second, same⟩ := map_ok found
          subst same
          exact .map (resolve_normal named key first) (resolve_normal named value second)
    · rw [resolve_untaken taken] at found
      cases found
  | record fields position, type, found => by
    rw [resolve] at found
    obtain ⟨types, resolved, same⟩ := map_ok found
    subst same
    exact Ty.normal_ofFields (resolveFields_normal named fields resolved)
  | union members, type, found => by
    rw [resolve] at found
    obtain ⟨types, resolved, same⟩ := map_ok found
    subst same
    exact Ty.normal_unionOf (resolveAll_normal named members resolved)

theorem resolveAll_normal {typeNamed : String → Option Ty}
    (named : ∀ name type, typeNamed name = some type → type.Normal) :
    ∀ (typeExprs : List TypeExpr) {types : List Ty}, resolveAll typeNamed typeExprs = .ok types →
      ∀ type ∈ types, type.Normal
  | [], types, found => by
    cases found
    exact nofun
  | typeExpr :: rest, types, found => by
    rw [resolveAll] at found
    split at found
    · cases found
    · rename_i type first
      obtain ⟨others, later, same⟩ := map_ok found
      subst same
      rw [List.forall_mem_cons]
      exact ⟨resolve_normal named typeExpr first, resolveAll_normal named rest later⟩

theorem resolveFields_normal {typeNamed : String → Option Ty}
    (named : ∀ name type, typeNamed name = some type → type.Normal) {position : Position} :
    ∀ (fields : List (String × TypeExpr)) {seen : List String} {types : List (String × Ty)},
      resolveFields typeNamed position seen fields = .ok types → ∀ field ∈ types, field.2.Normal
  | [], seen, types, found => by
    cases found
    exact nofun
  | (name, typeExpr) :: rest, seen, types, found => by
    rw [resolveFields] at found
    split at found
    · cases found
    split at found
    · cases found
    · rename_i type first
      obtain ⟨others, later, same⟩ := map_ok found
      subst same
      rw [List.forall_mem_cons]
      exact ⟨resolve_normal named typeExpr first, resolveFields_normal named rest later⟩
end

end TypeExpr
end TypedTemplate
