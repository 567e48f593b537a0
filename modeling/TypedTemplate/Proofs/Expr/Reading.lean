import Mathlib.Data.List.Induction
import TypedTemplate.Proofs.Expr.Agreement
import TypedTemplate.Proofs.Expr.Normal

namespace TypedTemplate

open Ty (Normal)

namespace RefKey

@[elab_as_elim]
theorem steps {motive : RefKey → Prop} (bare : ∀ name, motive (.bare name))
    (field : ∀ key name, motive key → motive (key.field name)) (key : RefKey) : motive key := by
  obtain ⟨root, path⟩ := key
  induction path using List.reverseRecOn with
  | nil => exact bare root
  | append_singleton outer name ih => exact field ⟨root, outer⟩ name ih

end RefKey

namespace Scope

-- What a reference is read as, if its last step is right; the path is followed from its
-- end. It is solid if nothing on the way to it is `null`.
def readPath (scope : Scope) (root : String) : List String → Option Ty
  | [] => (Expr.varType scope root).toOption
  | name :: outer => (scope.typeOf ⟨root, outer.reverse ++ [name]⟩).or
      ((readPath scope root outer).bind fun base => (Expr.access base (.field name) false).toOption)

def read (scope : Scope) (key : RefKey) : Option Ty := scope.readPath key.root key.path.reverse

def solidPath (scope : Scope) (root : String) : List String → Prop
  | [] => True
  | _ :: outer => scope.solidPath root outer ∧ ∃ base, scope.readPath root outer = some base ∧ base ≠ .null

def Solid (scope : Scope) (key : RefKey) : Prop := scope.solidPath key.root key.path.reverse

variable {scope : Scope}

theorem toOption_eq_some {rule : Except Fault Ty} {type : Ty} : rule.toOption = some type ↔ rule = .ok type := by
  cases rule <;> simp [Except.toOption]

theorem read_bare {name : String} {type : Ty} : scope.read (.bare name) = some type ↔ Expr.varType scope name = .ok type :=
  toOption_eq_some

theorem read_field {key : RefKey} {name : String} {type : Ty} : scope.read (key.field name) = some type ↔
    scope.typeOf (key.field name) = some type ∨ scope.typeOf (key.field name) = none ∧
      ∃ base, scope.read key = some base ∧ Expr.access base (.field name) false = .ok type := by
  simp only [read, RefKey.field, List.reverse_append, List.reverse_singleton, List.singleton_append, readPath,
    List.reverse_reverse, Option.or_eq_some_iff, Option.bind_eq_some_iff, toOption_eq_some]

theorem solid_bare (name : String) : scope.Solid (.bare name) := trivial

theorem solid_field {key : RefKey} {name : String} :
    scope.Solid (key.field name) ↔ scope.Solid key ∧ ∃ base, scope.read key = some base ∧ base ≠ .null := by
  simp only [Solid, read, RefKey.field, List.reverse_append, List.reverse_singleton, List.singleton_append, solidPath]

theorem Agrees.read_iff {a b : Scope} (agree : a.Agrees b) (key : RefKey) {type : Ty} :
    a.read key = some type ↔ b.read key = some type := by
  induction key using RefKey.steps generalizing type with
  | bare name => rw [read_bare, read_bare, Expr.varType_congr agree]
  | field key name ih => simp only [read_field, agree.typeOf, ih]

theorem Agrees.solid_iff {a b : Scope} (agree : a.Agrees b) (key : RefKey) : a.Solid key ↔ b.Solid key := by
  induction key using RefKey.steps with
  | bare name => exact iff_of_true (solid_bare name) (solid_bare name)
  | field key name ih => simp only [solid_field, ih, agree.read_iff]

theorem read_normal (normal : scope.Normal) {key : RefKey} {type : Ty} (found : scope.read key = some type) :
    type.Normal := by
  induction key using RefKey.steps generalizing type with
  | bare name => exact Expr.varType_kept Ty.Kept.normals normal.each (.inl .unknown) (read_bare.mp found)
  | field key name ih =>
    rcases read_field.mp found with narrowed | ⟨_, base, inner, accessed⟩
    · exact normal.typeOf narrowed
    · exact Expr.access_kept Ty.Kept.normals (ih inner) accessed

end Scope

namespace Expr

variable {scope : Scope}

-- The rule for fields agrees with the reading of the reference, whatever the type found
-- for the base if the path has been narrowed.
theorem fieldType_of_read {outer : RefKey} {name : String} {base type : Ty}
    (found : scope.read (outer.field name) = some type) (part : ∀ inner, scope.read outer = some inner → base = inner) :
    fieldType scope (some (outer.field name)) base name false = .ok type := by
  rw [fieldType, Option.bind_some, narrowedPath_field]
  rcases Scope.read_field.mp found with narrowed | ⟨absent, inner, read, accessed⟩
  · rw [narrowed]
  · rw [absent, part inner read]
    exact accessed

theorem infer_of_read (context : Context) (reference : Expr) {key : RefKey} {type : Ty} (denotes : reference.refKey? = some key)
    (found : scope.read key = some type) : (reference.infer context scope).type = type := by
  induction reference using refKey?.induct generalizing key type with
  | case1 node name =>
    cases denotes
    rw [infer, Scope.read_bare.mp found]
    rfl
  | case2 node base name ih =>
    have whole := denotes
    obtain ⟨_, outer, denotes', same⟩ := refKey?_field.mp denotes
    subst same
    rw [infer_field, whole, fieldType_of_read found fun inner read => ih denotes' read]
    rfl
  | case3 other _ _ => simp_all [refKey?]

theorem read_or_unknown (context : Context) (reference : Expr) {key : RefKey} (denotes : reference.refKey? = some key) :
    scope.read key = some (reference.infer context scope).type ∨ (reference.infer context scope).type = .unknown := by
  induction reference using refKey?.induct generalizing key with
  | case1 node name =>
    cases denotes
    rw [infer]
    cases found : varType scope name with
    | ok type => exact .inl (Scope.read_bare.mpr found)
    | error fault => exact .inr rfl
  | case2 node base name ih =>
    have whole := denotes
    obtain ⟨_, outer, denotes', same⟩ := refKey?_field.mp denotes
    subst same
    rw [infer_field, whole]
    simp only [Scope.read_field, fieldType, Option.bind_some, narrowedPath_field]
    cases narrowed : scope.typeOf (outer.field name) with
    | some type => exact .inl (.inl rfl)
    | none =>
      rcases ih denotes' with read | unknown
      · cases accessed : access (base.infer context scope).type (.field name) false with
        | ok type => exact .inl (.inr ⟨rfl, _, read, accessed⟩)
        | error fault => exact .inr rfl
      · rw [unknown]
        exact .inr rfl
  | case3 other _ _ => simp_all [refKey?]

end Expr
end TypedTemplate
