import TypedTemplate.Proofs.Expr.BlurScope

namespace TypedTemplate

open Ty (Normal)

structure Symbol.Blurs (symbol symbol' : Symbol) : Prop where
  name : symbol'.name = symbol.name
  kind : symbol'.kind = symbol.kind
  normal : symbol.declared.Normal
  normal' : symbol'.declared.Normal
  declared : symbol.declared.Blurs symbol'.declared

theorem Symbol.Blurs.effective {symbol symbol' : Symbol} (blurs : symbol.Blurs symbol') :
    symbol.effective.Blurs symbol'.effective := by
  unfold Symbol.effective
  rw [blurs.kind]
  split
  · exact Ty.nullable_blurs blurs.normal blurs.normal' blurs.declared
  · exact Ty.nullable_blurs blurs.normal blurs.normal' blurs.declared
  · exact blurs.declared

structure Scope.BlursHere (scope scope' : Scope) : Prop extends scope.Blurs scope' where
  declaresHere : ∀ name, scope.declaresHere name ↔ scope'.declaresHere name

namespace Scope

variable {scope scope' declared declared' : Scope} {symbol symbol' : Symbol} {known known' : Constraints}

theorem read_declare_bare (opened : scope.declare symbol = .ok declared) :
    declared.read (.bare symbol.name) =
      some (if symbol.name = Expr.injectedData then .unknown else symbol.effective) := by
  rw [read_bare, Expr.varType]
  split
  · rfl
  · rw [lookup_declare opened, if_pos rfl, typeOf_declare opened]
    simp [RefKey.bare, RefKey.isBare]

theorem read_declare_field (opened : scope.declare symbol = .ok declared) {key : RefKey} (root : key.root = symbol.name)
    (name : String) {type : Ty} : declared.read (key.field name) = some type ↔
      ∃ base, declared.read key = some base ∧ Expr.access base (.field name) false = .ok type := by
  have untold : declared.typeOf (key.field name) = none := by
    rw [typeOf_declare opened, if_pos (show (key.field name).root = symbol.name from root)]
    simp [RefKey.field, RefKey.isBare]
  rw [read_field, untold]
  simp

theorem read_declare_other (opened : scope.declare symbol = .ok declared) {key : RefKey} (root : key.root ≠ symbol.name)
    {type : Ty} : declared.read key = some type ↔ scope.read key = some type := by
  induction key using RefKey.steps generalizing type with
  | bare name =>
    have other : name ≠ symbol.name := root
    have same : Expr.varType declared name = Expr.varType scope name := by
      rw [Expr.varType, Expr.varType, lookup_declare opened, if_neg other, typeOf_declare opened, if_neg root]
    rw [read_bare, read_bare, same]
  | field key name ih =>
    rw [read_field, read_field, typeOf_declare opened, if_neg root]
    simp only [ih root]

theorem solid_declare_other (opened : scope.declare symbol = .ok declared) {key : RefKey} (root : key.root ≠ symbol.name) :
    declared.Solid key ↔ scope.Solid key := by
  induction key using RefKey.steps with
  | bare name => exact iff_of_true (solid_bare name) (solid_bare name)
  | field key name ih =>
    rw [solid_field, solid_field, ih root]
    simp only [read_declare_other opened (show key.root ≠ symbol.name from root)]

theorem Blurs.declare (blurs : scope.Blurs scope') (symbols : symbol.Blurs symbol')
    (opened : scope.declare symbol = .ok declared) (opened' : scope'.declare symbol' = .ok declared') :
    declared.Blurs declared' := by
  have normal := blurs.normal.declare symbols.normal opened
  have normal' := blurs.normal'.declare symbols.normal' opened'
  refine ⟨normal, normal', ?_⟩
  intro key type solid found
  by_cases root : key.root = symbol.name
  · have root' : key.root = symbol'.name := root.trans symbols.name.symm
    induction key using RefKey.steps generalizing type with
    | bare name =>
      cases root
      have first := read_declare_bare opened
      have second := read_declare_bare opened'
      rw [symbols.name] at second
      cases found.symm.trans first
      refine ⟨_, second, ?_⟩
      split
      · exact .unknown _
      · exact symbols.effective
    | field key name ih =>
      change key.root = symbol.name at root
      change key.root = symbol'.name at root'
      obtain ⟨base, inner, accessed⟩ := (read_declare_field opened root name).mp found
      obtain ⟨base', inner', bases⟩ := ih (solid_field.mp solid).1 inner root root'
      obtain ⟨type', accessed', types⟩ := Expr.access_field_follows (read_normal normal inner) (read_normal normal' inner')
        bases name false type accessed
      exact ⟨type', (read_declare_field opened' root' name).mpr ⟨base', inner', accessed'⟩, types⟩
  · have root' : key.root ≠ symbol'.name := fun same => root (same.trans symbols.name)
    obtain ⟨type', found', types⟩ :=
      blurs.read ((solid_declare_other opened root).mp solid) ((read_declare_other opened root).mp found)
    exact ⟨type', (read_declare_other opened' root').mpr found', types⟩

theorem Blurs.enter_here (blurs : scope.Blurs scope') : scope.enter.BlursHere scope'.enter :=
  ⟨blurs.enter, fun name => iff_of_false (not_declaresHere_enter name) (not_declaresHere_enter name)⟩

theorem Blurs.under_here (blurs : scope.Blurs scope') (constraints : known.Blurs known' scope scope') :
    (scope.under known).BlursHere (scope'.under known') :=
  ⟨blurs.under constraints, fun name =>
    iff_of_false (not_declaresHere_under known name) (not_declaresHere_under known' name)⟩

theorem BlursHere.assume (blurs : scope.BlursHere scope') (constraints : known.Blurs known' scope scope') :
    (scope.assume known).BlursHere (scope'.assume known') := by
  refine ⟨blurs.toBlurs.assume constraints, fun name => ?_⟩
  rw [declaresHere_assume, declaresHere_assume, blurs.declaresHere]

theorem BlursHere.declare (blurs : scope.BlursHere scope') (symbols : symbol.Blurs symbol')
    (opened : scope.declare symbol = .ok declared) :
    ∃ declared', scope'.declare symbol' = .ok declared' ∧ declared.BlursHere declared' := by
  obtain ⟨fresh, _⟩ := of_declare opened
  rw [blurs.declaresHere, ← symbols.name] at fresh
  have opened' := declare_eq fresh
  refine ⟨_, opened', blurs.toBlurs.declare symbols opened opened', fun name => ?_⟩
  rw [declaresHere_declare opened, declaresHere_declare opened', symbols.name, blurs.declaresHere]

end Scope
end TypedTemplate
