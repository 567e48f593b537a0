import TypedTemplate.Expr.Infer
import TypedTemplate.Proofs.Scope

namespace TypedTemplate

-- Two scopes that give the same answers, however their blocks are stacked.
structure Scope.Agrees (a b : Scope) : Prop where
  declares : ∀ name, a.declares name ↔ b.declares name
  typeOf : ∀ key, a.typeOf key = b.typeOf key

namespace Scope.Agrees

variable {a b : Scope}

theorem refl (scope : Scope) : scope.Agrees scope := ⟨fun _ => Iff.rfl, fun _ => rfl⟩

theorem enter (agree : a.Agrees b) : a.enter.Agrees b.enter := ⟨agree.declares, agree.typeOf⟩

theorem enter_left (agree : a.Agrees b) : a.enter.Agrees b := ⟨agree.declares, agree.typeOf⟩

theorem enter_right (agree : a.Agrees b) : a.Agrees b.enter := ⟨agree.declares, agree.typeOf⟩

theorem narrow (agree : a.Agrees b) (key : RefKey) (type : Ty) : (a.narrow key type).Agrees (b.narrow key type) :=
  ⟨agree.declares, fun asked => by rw [typeOf_narrow, typeOf_narrow, agree.typeOf]⟩

theorem assume (agree : a.Agrees b) (constraints : Constraints) :
    (a.assume constraints).Agrees (b.assume constraints) := by
  unfold Scope.assume
  induction constraints generalizing a b with
  | nil => exact agree
  | cons entry rest ih => exact ih (agree.narrow entry.1 entry.2)

theorem under (agree : a.Agrees b) (constraints : Constraints) :
    (a.under constraints).Agrees (b.under constraints) := agree.enter.assume constraints

end Scope.Agrees

namespace Expr

variable {a b : Scope}

theorem varType_congr (agree : a.Agrees b) (name : String) : varType a name = varType b name := by
  unfold varType
  split
  · rfl
  · by_cases declared : a.declares name
    · obtain ⟨symbol, found⟩ := declared
      obtain ⟨symbol', found'⟩ := (agree.declares name).mp ⟨symbol, found⟩
      rw [found, found', agree.typeOf]
    · rw [Scope.lookup_of_not_declares declared,
        Scope.lookup_of_not_declares fun found => declared ((agree.declares name).mpr found)]

theorem narrowedPath_congr (agree : a.Agrees b) (key : RefKey) : narrowedPath a key = narrowedPath b key := by
  rw [narrowedPath, narrowedPath, agree.typeOf]

theorem rightScope_agrees (agree : a.Agrees b) (modern : Bool) (operator : BinaryOperator) (left : Expr) (typed : Typed) :
    (rightScope modern a operator left typed).Agrees (rightScope modern b operator left typed) := by
  unfold rightScope
  split
  · exact agree.under _
  · exact agree.under _
  · split
    · split
      · exact agree.under _
      · exact agree
    · exact agree
  · exact agree

mutual
theorem infer_congr (context : Context) : ∀ (expr : Expr) {a b : Scope}, a.Agrees b →
    expr.infer context a = expr.infer context b
  | null _, _, _, _ | bool _ _, _, _, _ | int _ _, _, _, _ | float _ _, _, _, _ | string _ _, _, _, _ => rfl
  | list node items, _, _, agree => by rw [infer, infer, inferAll_congr context items agree]
  | map node entries, _, _, agree => by rw [infer, infer, inferEntries_congr context entries agree]
  | var node name, _, _, agree => by rw [infer, infer, varType_congr agree]
  | field node base name nullSafe, a, b, agree => by
    have same : narrowedPath a = narrowedPath b := funext (narrowedPath_congr agree)
    rw [infer, infer, infer_congr context base agree, same]
  | index node base key nullSafe, _, _, agree => by
    rw [infer, infer, infer_congr context base agree, infer_congr context key agree]
  | unary node operator operand, _, _, agree => by rw [infer, infer, infer_congr context operand agree]
  | binary node operator left right, _, b, agree => by
    have inside := rightScope_agrees agree context.version.isModern operator left (left.infer context b)
    rw [infer, infer, infer_congr context left agree, infer_congr context right inside]
  | conditional node condition thenValue elseValue, _, b, agree => by
    let known := condition.refine (condition.infer context b).log.typeOf context.version.isModern
    rw [infer, infer, infer_congr context condition agree, infer_congr context thenValue (agree.under known.whenTrue),
      infer_congr context elseValue (agree.under known.whenFalse)]
  | call node name args, _, _, agree => by rw [infer, infer, inferAll_congr context args agree]

theorem inferAll_congr (context : Context) : ∀ (exprs : List Expr) {a b : Scope}, a.Agrees b →
    inferAll context a exprs = inferAll context b exprs
  | [], _, _, _ => rfl
  | expr :: rest, _, _, agree => by
    rw [inferAll, inferAll, infer_congr context expr agree, inferAll_congr context rest agree]

theorem inferEntries_congr (context : Context) : ∀ (entries : List (Expr × Expr)) {a b : Scope}, a.Agrees b →
    inferEntries context a entries = inferEntries context b entries
  | [], _, _, _ => rfl
  | (key, value) :: rest, _, _, agree => by
    rw [inferEntries, inferEntries, infer_congr context key agree, infer_congr context value agree,
      inferEntries_congr context rest agree]
end

end Expr
end TypedTemplate
