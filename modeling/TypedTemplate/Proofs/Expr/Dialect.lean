import TypedTemplate.Expr.Infer
import TypedTemplate.Proofs.Expr.Children

namespace TypedTemplate

theorem Version.isModern_iff (version : Version) : version.isModern = true ↔ version ∈ [v2_3, v2_4] := by
  cases version <;> decide

namespace Expr

def isReference : Expr → Bool
  | var _ _ | field _ _ _ false => true
  | _ => false

def isDialectal : Expr → Bool
  | unary _ .not _ | binary _ .and _ _ | binary _ .or _ _ => true
  | conditional _ condition _ _ => condition.isReference
  | _ => false

def isNeutral (expr : Expr) : Bool := expr.subterms.all fun term => !term.isDialectal

-- Two versions that go by the same rules, or else something that no rule of them differs on.
def Alike (version version' : Version) (neutral : Bool) : Prop :=
  version.isModern = version'.isModern ∨ neutral = true

variable {version version' : Version} {expr : Expr}

theorem Alike.of_side {neutral : Bool} (same : version ∈ [Version.v2_3, .v2_4] ↔ version' ∈ [Version.v2_3, .v2_4]) :
    Alike version version' neutral :=
  .inl (Bool.eq_iff_iff.mpr (version.isModern_iff.trans (same.trans version'.isModern_iff.symm)))

theorem Alike.child {child : Expr} (alike : Alike version version' expr.isNeutral) (listed : child ∈ expr.children) :
    Alike version version' child.isNeutral :=
  alike.imp_right fun neutral => List.all_eq_true.mpr fun term inside =>
    List.all_eq_true.mp neutral term (child_subterms_subset listed inside)

theorem Alike.own (alike : Alike version version' expr.isNeutral) : Alike version version' (!expr.isDialectal) :=
  alike.imp_right fun neutral => List.all_eq_true.mp neutral expr expr.self_mem_subterms

theorem unaryType_alike {node : Node} {operator : UnaryOperator} {operand : Expr}
    (alike : Alike version version' (!(unary node operator operand).isDialectal)) (type : Ty) :
    unaryType version.isModern operator type = unaryType version'.isModern operator type := by
  rcases alike with same | neutral
  · rw [same]
  · cases operator with
    | negate => rfl
    | not => cases neutral

theorem binaryType_alike {node : Node} {operator : BinaryOperator} {left right : Expr}
    (alike : Alike version version' (!(binary node operator left right).isDialectal)) (type type' : Ty) :
    binaryType version.isModern operator type type' = binaryType version'.isModern operator type type' := by
  rcases alike with same | neutral
  · rw [same]
  · cases operator <;> first | rfl | cases neutral

theorem rightScope_alike {node : Node} {operator : BinaryOperator} {left right : Expr}
    (alike : Alike version version' (!(binary node operator left right).isDialectal)) (scope : Scope) (typed : Typed) :
    rightScope version.isModern scope operator left typed = rightScope version'.isModern scope operator left typed := by
  rcases alike with same | neutral
  · rw [same]
  · cases operator <;> first | rfl | cases neutral

theorem refine_alike {condition : Expr} (alike : Alike version version' (!condition.isDialectal))
    (unbare : Alike version version' (!condition.isReference)) (typeOf : Nat → Option Ty) :
    condition.refine typeOf version.isModern = condition.refine typeOf version'.isModern := by
  rcases alike with same | neutral
  · rw [same]
  rcases unbare with same | unbare
  · rw [same]
  fun_cases refine typeOf version.isModern condition with
  | case1 | case2 | case6 => rfl
  | case3 | case4 | case5 => cases neutral
  | case7 => cases unbare
  | case8 node base name nullSafe =>
    cases nullSafe with
    | false => cases unbare
    | true =>
      have nothing : refineNonNull typeOf (field node base name true) = .none := by simp [refineNonNull, refKey?]
      simp only [refine, refineBare, nothing, ite_self]
  | case9 => rw [refine] <;> assumption

section typing

variable (typeNamed : String → Option Ty) (signature : String → Option Signature)

mutual
theorem infer_alike : ∀ (expr : Expr) (scope : Scope), Alike version version' expr.isNeutral →
    expr.infer ⟨typeNamed, signature, version⟩ scope = expr.infer ⟨typeNamed, signature, version'⟩ scope
  | null _, _, _ | bool _ _, _, _ | int _ _, _, _ | float _ _, _, _ | string _ _, _, _ | var _ _, _, _ => rfl
  | list node items, scope, alike => by
    rw [infer, infer, inferAll_alike items scope fun item listed => alike.child listed]
  | map node entries, scope, alike => by
    rw [infer, infer, inferEntries_alike entries scope fun part listed => alike.child listed]
  | field node base name nullSafe, scope, alike => by
    rw [infer, infer, infer_alike base scope (alike.child (by simp [children]))]
  | index node base key nullSafe, scope, alike => by
    rw [infer, infer, infer_alike base scope (alike.child (by simp [children])),
      infer_alike key scope (alike.child (by simp [children]))]
  | unary node operator operand, scope, alike => by
    rw [infer, infer, infer_alike operand scope (alike.child (by simp [children])), unaryType_alike alike.own]
  | binary node operator left right, scope, alike => by
    rw [infer, infer, infer_alike left scope (alike.child (by simp [children])), rightScope_alike alike.own,
      infer_alike right _ (alike.child (by simp [children])), binaryType_alike alike.own]
  | conditional node condition thenValue elseValue, scope, alike => by
    have inside : Alike version version' condition.isNeutral := alike.child (by simp [children])
    rw [infer, infer, infer_alike condition scope inside, refine_alike inside.own alike.own,
      infer_alike thenValue _ (alike.child (by simp [children])),
      infer_alike elseValue _ (alike.child (by simp [children]))]
  | call node name args, scope, alike => by
    rw [infer, infer, inferAll_alike args scope fun arg listed => alike.child listed]
    rfl

theorem inferAll_alike : ∀ (exprs : List Expr) (scope : Scope),
    (∀ expr ∈ exprs, Alike version version' expr.isNeutral) →
      inferAll ⟨typeNamed, signature, version⟩ scope exprs = inferAll ⟨typeNamed, signature, version'⟩ scope exprs
  | [], _, _ => rfl
  | expr :: rest, scope, alike => by
    rw [List.forall_mem_cons] at alike
    rw [inferAll, inferAll, infer_alike expr scope alike.1, inferAll_alike rest scope alike.2]

theorem inferEntries_alike : ∀ (entries : List (Expr × Expr)) (scope : Scope),
    (∀ expr ∈ entryExprs entries, Alike version version' expr.isNeutral) →
      inferEntries ⟨typeNamed, signature, version⟩ scope entries =
        inferEntries ⟨typeNamed, signature, version'⟩ scope entries
  | [], _, _ => rfl
  | (key, value) :: rest, scope, alike => by
    rw [entryExprs, List.forall_mem_cons, List.forall_mem_cons] at alike
    rw [inferEntries, inferEntries, infer_alike key scope alike.1, infer_alike value scope alike.2.1,
      inferEntries_alike rest scope alike.2.2]
end

end typing

end Expr
end TypedTemplate
