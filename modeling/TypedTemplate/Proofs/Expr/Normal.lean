import TypedTemplate.Proofs.Context
import TypedTemplate.Proofs.Expr.Kept

namespace TypedTemplate

open Ty (Normal Kept)

structure Frame.Normal (frame : Frame) : Prop where
  symbols : ∀ symbol ∈ frame.symbols, symbol.declared.Normal
  narrowed : ∀ entry ∈ frame.narrowed, entry.2.Normal

def Scope.Normal (scope : Scope) : Prop := ∀ frame ∈ scope.frames, frame.Normal

theorem Frame.normal_iff {frame : Frame} : frame.Normal ↔ frame.Each Ty.Normal :=
  ⟨fun normal => ⟨normal.symbols, normal.narrowed⟩, fun each => ⟨each.symbols, each.narrowed⟩⟩

theorem Scope.normal_iff {scope : Scope} : scope.Normal ↔ scope.Each Ty.Normal :=
  forall₂_congr fun _ _ => Frame.normal_iff

namespace Scope.Normal

variable {scope : Scope}

theorem each (normal : scope.Normal) : scope.Each Ty.Normal := normal_iff.mp normal

theorem typeOf (normal : scope.Normal) {key : RefKey} {type : Ty} (found : scope.typeOf key = some type) :
    type.Normal := normal.each.typeOf Kept.normals found

theorem empty : Scope.empty.Normal := normal_iff.mpr .empty

theorem enter (normal : scope.Normal) : scope.enter.Normal := normal_iff.mpr normal.each.enter

theorem assume (normal : scope.Normal) {constraints : Constraints} (told : ∀ entry ∈ constraints, entry.2.Normal) :
    (scope.assume constraints).Normal := normal_iff.mpr (normal.each.assume told)

theorem under (normal : scope.Normal) {constraints : Constraints} (told : ∀ entry ∈ constraints, entry.2.Normal) :
    (scope.under constraints).Normal := normal.enter.assume told

theorem declare (normal : scope.Normal) {symbol : Symbol} {declared : Scope} (type : symbol.declared.Normal)
    (opened : scope.declare symbol = .ok declared) : declared.Normal := normal_iff.mpr (normal.each.declare type opened)

end Scope.Normal

theorem keyType_normal {type : Ty} (normal : type.Normal) : (Signature.keyType type).Normal := by
  cases normal with
  | map keys => exact keys
  | record => exact .string
  | _ => exact .unknown

theorem getD_normal {types : List Ty} (normal : ∀ type ∈ types, type.Normal) (index : Nat) :
    (types.getD index .unknown).Normal := by
  rw [List.getD_eq_getElem?_getD]
  cases found : types[index]? with
  | none => exact .unknown
  | some type => exact normal type (List.mem_of_getElem? found)

theorem Signature.resultType_normal {signature : Signature}
    (fixed : ∀ type, signature.result = .fixed type → type.Normal) {types : List Ty}
    (normal : ∀ type ∈ types, type.Normal) : (signature.resultType types).Normal := by
  unfold resultType
  cases shape : signature.result with
  | fixed type => exact fixed type shape
  | argument index => exact getD_normal normal index
  | keysOf index => exact .list (keyType_normal (getD_normal normal index))
  | numeric left right =>
    dsimp only
    split
    · rename_i found
      exact Kept.normals.arithmetic (getD_normal normal left) (getD_normal normal right) found
    · exact .unknown

theorem Context.Regular.keeps {context : Context} (regular : context.Regular) : context.Keeps Normal := by
  intro name signature types named _ normal _
  refine signature.resultType_normal (fun type shape => ?_) normal
  have result := (regular.signature named).result
  rw [shape] at result
  exact result

namespace Expr

theorem reference_normal (context : Context) {scope : Scope} (normal : scope.Normal) (reference : Expr) {key : RefKey}
    (denotes : reference.refKey? = some key) : (reference.infer context scope).type.Normal := by
  induction reference using refKey?.induct generalizing key with
  | case1 node name =>
    rw [infer]
    exact judged_kept (.inl .unknown) fun type => varType_kept Kept.normals normal.each (.inl .unknown)
  | case2 node base name ih =>
    obtain ⟨_, outer, denotes', _⟩ := refKey?_field.mp denotes
    rw [infer_field]
    exact judged_kept (.inl .unknown) fun type => fieldType_kept Kept.normals normal.each (ih denotes')
  | case3 other _ _ => simp_all [refKey?]

section

variable {context : Context} (regular : context.Regular) {scope : Scope} (normal : scope.Normal)
include regular normal

theorem infer_normal (expr : Expr) : (expr.infer context scope).type.Normal :=
  (infer_kept Kept.normals regular.keeps expr normal.each (.inl .unknown)).type

theorem inferAll_normal (exprs : List Expr) : ∀ type ∈ (inferAll context scope exprs).map Typed.type, type.Normal :=
  (inferAll_kept Kept.normals regular.keeps exprs normal.each (.inl .unknown)).1

theorem inferEntries_normal (entries : List (Expr × Expr)) :
    (∀ type ∈ (inferEntries context scope entries).map fun part => part.1.type, type.Normal) ∧
      ∀ type ∈ (inferEntries context scope entries).map fun part => part.2.type, type.Normal := by
  obtain ⟨keys, values, _⟩ := inferEntries_kept Kept.normals regular.keeps entries normal.each (.inl .unknown)
  exact ⟨keys, values⟩

end
end Expr

theorem Invariant.normal (context : Context) : Invariant context (fun _ => Normal) Scope.Normal where
  closed _ := Kept.normals.closed
  under normal sorted within := normal.under (within.entries sorted)
  read normal denotes _ := Expr.reference_normal context normal _ denotes

end TypedTemplate
