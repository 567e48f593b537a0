import TypedTemplate.Expr

namespace TypedTemplate.Expr

def entryExprs : List (Expr × Expr) → List Expr
  | [] => []
  | (key, value) :: rest => key :: value :: entryExprs rest

def children : Expr → List Expr
  | null _ | bool _ _ | int _ _ | float _ _ | string _ _ | var _ _ => []
  | list _ items => items
  | map _ entries => entryExprs entries
  | field _ base _ _ => [base]
  | index _ base key _ => [base, key]
  | unary _ _ operand => [operand]
  | binary _ _ left right => [left, right]
  | conditional _ condition thenValue elseValue => [condition, thenValue, elseValue]
  | call _ _ args => args

theorem subtermsOf_eq (exprs : List Expr) : subtermsOf exprs = exprs.flatMap subterms := by
  induction exprs with
  | nil => rfl
  | cons expr rest ih => rw [subtermsOf, List.flatMap_cons, ih]

theorem subtermsOfEntries_eq (entries : List (Expr × Expr)) :
    subtermsOfEntries entries = (entryExprs entries).flatMap subterms := by
  induction entries with
  | nil => rfl
  | cons entry rest ih => simp [subtermsOfEntries, entryExprs, ih]

theorem subterms_eq (expr : Expr) : expr.subterms = expr.children.flatMap subterms ++ [expr] := by
  cases expr with
  | null | bool | int | float | string | var => rfl
  | list | call => rw [subterms, subtermsOf_eq, children]
  | map => rw [subterms, subtermsOfEntries_eq, children]
  | field | unary => simp [subterms, children]
  | index | binary | conditional => simp [subterms, children]

theorem child_subterms_subset {expr child : Expr} (listed : child ∈ expr.children) : child.subterms ⊆ expr.subterms := by
  intro term inside
  rw [subterms_eq]
  exact List.mem_append_left _ (List.mem_flatMap.mpr ⟨child, listed, inside⟩)

end TypedTemplate.Expr
