import TypedTemplate.Ty

namespace TypedTemplate.Ty

mutual
theorem order_swap : ∀ a b : Ty, order a b = (order b a).swap
  | unknown, b | null, b | bool, b | int, b | float, b | string, b => by cases b <;> rfl
  | list element, b => by
    cases b
    case list other => exact order_swap element other
    all_goals rfl
  | map key value, b => by
    cases b
    case map key' value' => simp only [order, Ordering.swap_then, ← order_swap key key', ← order_swap value value']
    all_goals rfl
  | record fields, b => by
    cases b
    case record other => exact orderFields_swap fields other
    all_goals rfl
  | union members, b => by
    cases b
    case union other => exact orderMembers_swap members other
    all_goals rfl

theorem orderFields_swap : ∀ a b : List (String × Ty), orderFields a b = (orderFields b a).swap
  | [], [] | [], _ :: _ | _ :: _, [] => rfl
  | (name, type) :: rest, (name', type') :: rest' => by
    simp only [orderFields, Ordering.swap_then, ← order_swap type type', ← orderFields_swap rest rest',
      ← Std.OrientedOrd.eq_swap (a := name) (b := name')]

theorem orderMembers_swap : ∀ a b : List Ty, orderMembers a b = (orderMembers b a).swap
  | [], [] | [], _ :: _ | _ :: _, [] => rfl
  | type :: rest, type' :: rest' => by
    simp only [orderMembers, Ordering.swap_then, ← order_swap type type', ← orderMembers_swap rest rest']
end

theorem order_of_rank_ne {a b : Ty} (differ : a.rank ≠ b.rank) : order a b = compare a.rank b.rank := by
  cases a <;> cases b <;> first | rfl | exact absurd rfl differ

theorem rank_le_of_order_lt {a b : Ty} (before : order a b = .lt) : a.rank ≤ b.rank := by
  by_cases same : a.rank = b.rank
  · exact Nat.le_of_eq same
  · rw [order_of_rank_ne same, Nat.compare_eq_lt] at before
    exact Nat.le_of_lt before

theorem order_lt_trans_or_same_rank {a b c : Ty} (ab : order a b = .lt) (bc : order b c = .lt) :
    order a c = .lt ∨ b.rank = a.rank ∧ c.rank = a.rank := by
  have first := rank_le_of_order_lt ab
  have second := rank_le_of_order_lt bc
  by_cases differ : a.rank = c.rank
  · exact .inr ⟨by omega, differ.symm⟩
  · rw [order_of_rank_ne differ, Nat.compare_eq_lt]
    exact .inl (by omega)

theorem then_lt_trans {α : Type} {first : α → α → Ordering} {a b c : α} {ab bc ac : Ordering}
    (same : ∀ {a b}, first a b = .eq → a = b)
    (firsts : first a b = .lt → first b c = .lt → first a c = .lt) (seconds : ab = .lt → bc = .lt → ac = .lt)
    (before : (first a b).then ab = .lt) (after : (first b c).then bc = .lt) : (first a c).then ac = .lt := by
  rw [Ordering.then_eq_lt] at before after ⊢
  rcases before with less | ⟨equal, less⟩
  · rcases after with less' | ⟨equal', _⟩
    · exact .inl (firsts less less')
    · rw [← same equal']; exact .inl less
  · rcases after with less' | ⟨equal', less'⟩
    · rw [same equal]; exact .inl less'
    · rw [same equal]; exact .inr ⟨equal', seconds less less'⟩

mutual
theorem order_lt_trans : ∀ a b c : Ty, order a b = .lt → order b c = .lt → order a c = .lt
  | unknown, b, c | null, b, c | bool, b, c | int, b, c | float, b, c | string, b, c => fun ab bc => by
    rcases order_lt_trans_or_same_rank ab bc with less | ⟨same, _⟩
    · exact less
    · cases b <;> cases same
      cases ab
  | list element, b, c => fun ab bc => by
    rcases order_lt_trans_or_same_rank ab bc with less | ⟨same, same'⟩
    · exact less
    · cases b <;> cases same
      cases c <;> cases same'
      exact order_lt_trans element _ _ ab bc
  | map key value, b, c => fun ab bc => by
    rcases order_lt_trans_or_same_rank ab bc with less | ⟨same, same'⟩
    · exact less
    · cases b <;> cases same
      cases c <;> cases same'
      exact then_lt_trans order_eq_iff.mp (order_lt_trans key _ _) (order_lt_trans value _ _) ab bc
  | record fields, b, c => fun ab bc => by
    rcases order_lt_trans_or_same_rank ab bc with less | ⟨same, same'⟩
    · exact less
    · cases b <;> cases same
      cases c <;> cases same'
      exact orderFields_lt_trans fields _ _ ab bc
  | union members, b, c => fun ab bc => by
    rcases order_lt_trans_or_same_rank ab bc with less | ⟨same, same'⟩
    · exact less
    · cases b <;> cases same
      cases c <;> cases same'
      exact orderMembers_lt_trans members _ _ ab bc

theorem orderFields_lt_trans : ∀ a b c : List (String × Ty),
    orderFields a b = .lt → orderFields b c = .lt → orderFields a c = .lt
  | [], [], _ | [], _ :: _, [] => by simp [orderFields]
  | [], _ :: _, _ :: _ => fun _ _ => rfl
  | _ :: _, [], _ => by simp [orderFields]
  | _ :: _, _ :: _, [] => by simp [orderFields]
  | (name, type) :: rest, (name', type') :: rest', (name'', type'') :: rest'' => fun ab bc => by
    rw [orderFields, Ordering.then_assoc] at ab bc ⊢
    refine then_lt_trans Std.compare_eq_iff_eq.mp Std.TransCmp.lt_trans ?_ ab bc
    exact then_lt_trans order_eq_iff.mp (order_lt_trans type type' type'') (orderFields_lt_trans rest rest' rest'')

theorem orderMembers_lt_trans : ∀ a b c : List Ty,
    orderMembers a b = .lt → orderMembers b c = .lt → orderMembers a c = .lt
  | [], [], _ | [], _ :: _, [] => by simp [orderMembers]
  | [], _ :: _, _ :: _ => fun _ _ => rfl
  | _ :: _, [], _ => by simp [orderMembers]
  | _ :: _, _ :: _, [] => by simp [orderMembers]
  | type :: rest, type' :: rest', type'' :: rest'' =>
    then_lt_trans order_eq_iff.mp (order_lt_trans type type' type'') (orderMembers_lt_trans rest rest' rest'')
end

instance : Std.TransOrd Ty where
  eq_swap := order_swap _ _
  isLE_trans {a b c} ab bc := by
    change (order a b).isLE at ab
    change (order b c).isLE at bc
    change (order a c).isLE
    rw [Ordering.isLE_iff_eq_lt_or_eq_eq] at ab bc ⊢
    rcases ab with less | equal
    · rcases bc with less' | equal'
      · exact .inl (order_lt_trans a b c less less')
      · rw [← order_eq_iff.mp equal']; exact .inl less
    · rw [order_eq_iff.mp equal]; exact bc

end TypedTemplate.Ty
