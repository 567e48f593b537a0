import TypedTemplate.Proofs.Expr.Evidence

namespace TypedTemplate

def Log.Visited (log : Log) (context : Context) (sound : Scope → Prop) (part : Expr) : Prop :=
  ∃ scope, sound scope ∧ (part.id, (part.infer context scope).type) ∈ log.types

namespace Log.Visited

variable {context : Context} {sound : Scope → Prop} {part : Expr} {log : Log}

theorem left (visited : log.Visited context sound part) (later : Log) : (log ++ later).Visited context sound part := by
  obtain ⟨scope, holds, recorded⟩ := visited
  exact ⟨scope, holds, mem_types_append.mpr (.inl recorded)⟩

theorem right (visited : log.Visited context sound part) (earlier : Log) : (earlier ++ log).Visited context sound part := by
  obtain ⟨scope, holds, recorded⟩ := visited
  exact ⟨scope, holds, mem_types_append.mpr (.inr recorded)⟩

theorem settle (visited : log.Visited context sound part) (node : Node) (verdict : Verdict) :
    (Expr.settle node log verdict).log.Visited context sound part := visited.left _

end Log.Visited

namespace Expr

theorem visited_self (context : Context) {sound : Scope → Prop} {scope : Scope} (start : sound scope) (expr : Expr) :
    (expr.infer context scope).log.Visited context sound expr :=
  ⟨scope, start, Log.mem_of_typeOf (typeOf_infer_self context scope expr)⟩

theorem visited_of_parts {context : Context} {sound : Scope → Prop} {scope : Scope} (start : sound scope) {expr : Expr}
    {terms : List Expr} (parts : ∀ part ∈ terms, (expr.infer context scope).log.Visited context sound part) :
    ∀ part ∈ terms ++ [expr], (expr.infer context scope).log.Visited context sound part := by
  intro part inside
  rcases List.mem_append.mp inside with inner | self
  · exact parts part inner
  · rw [List.mem_singleton.mp self]
    exact visited_self context start expr

mutual
theorem infer_visits {context : Context} {among : RefKey → Ty → Prop} {sound : Scope → Prop}
    (invariant : Invariant context among sound) : ∀ (expr : Expr) {scope : Scope}, expr.ids.Nodup → sound scope →
    ∀ part ∈ expr.subterms, (expr.infer context scope).log.Visited context sound part
  | null _, _, _, start | bool _ _, _, _, start | int _ _, _, _, start | float _ _, _, _, start | string _ _, _, _, start
  | var _ _, _, _, start => by
    intro part inside
    rw [List.mem_singleton.mp inside]
    exact visited_self context start _
  | list node items, scope, distinct, start => by
    refine visited_of_parts start fun part inside => ?_
    rw [infer]
    exact (inferAll_visits invariant items (distinct_append distinct).1 start part inside).settle _ _
  | map node entries, scope, distinct, start => by
    refine visited_of_parts start fun part inside => ?_
    rw [infer]
    exact (inferEntries_visits invariant entries (distinct_append distinct).1 start part inside).settle _ _
  | field node base name nullSafe, scope, distinct, start => by
    refine visited_of_parts start fun part inside => ?_
    rw [infer]
    exact (infer_visits invariant base (distinct_append distinct).1 start part inside).settle _ _
  | index node base key nullSafe, scope, distinct, start => by
    obtain ⟨distinct, distinct'⟩ := distinct_append (distinct_append distinct).1
    refine visited_of_parts start fun part inside => ?_
    rw [infer]
    rcases List.mem_append.mp inside with first | second
    · exact ((infer_visits invariant base distinct start part first).left _).settle _ _
    · exact ((infer_visits invariant key distinct' start part second).right _).settle _ _
  | unary node operator operand, scope, distinct, start => by
    refine visited_of_parts start fun part inside => ?_
    rw [infer]
    exact (infer_visits invariant operand (distinct_append distinct).1 start part inside).settle _ _
  | binary node operator left right, scope, distinct, start => by
    obtain ⟨distinct, distinct'⟩ := distinct_append (distinct_append distinct).1
    have known := invariant.rightScope_sound distinct start operator
    refine visited_of_parts start fun part inside => ?_
    rw [infer]
    rcases List.mem_append.mp inside with first | second
    · exact ((infer_visits invariant left distinct start part first).left _).settle _ _
    · exact ((infer_visits invariant right distinct' known part second).right _).settle _ _
  | conditional node condition thenValue elseValue, scope, distinct, start => by
    obtain ⟨distinct, distinct''⟩ := distinct_append (distinct_append distinct).1
    obtain ⟨distinct, distinct'⟩ := distinct_append distinct
    refine visited_of_parts start fun part inside => ?_
    rw [infer]
    rcases List.mem_append.mp inside with inner | third
    · rcases List.mem_append.mp inner with first | second
      · exact (((infer_visits invariant condition distinct start part first).left _).left _).settle _ _
      · have known := invariant.under_whenTrue distinct start
        exact (((infer_visits invariant thenValue distinct' known part second).right _).left _).settle _ _
    · have known := invariant.under_whenFalse distinct start
      exact ((infer_visits invariant elseValue distinct'' known part third).right _).settle _ _
  | call node name args, scope, distinct, start => by
    refine visited_of_parts start fun part inside => ?_
    rw [infer]
    exact (inferAll_visits invariant args (distinct_append distinct).1 start part inside).settle _ _

theorem inferAll_visits {context : Context} {among : RefKey → Ty → Prop} {sound : Scope → Prop}
    (invariant : Invariant context among sound) : ∀ (exprs : List Expr) {scope : Scope},
    ((subtermsOf exprs).map id).Nodup → sound scope → ∀ part ∈ subtermsOf exprs,
    (Log.concat ((inferAll context scope exprs).map Typed.log)).Visited context sound part
  | [], _, _, _ => nofun
  | expr :: rest, scope, distinct, start => by
    obtain ⟨distinct, distinct'⟩ := distinct_append distinct
    intro part inside
    rw [inferAll]
    rcases List.mem_append.mp inside with first | later
    · exact (infer_visits invariant expr distinct start part first).left _
    · exact (inferAll_visits invariant rest distinct' start part later).right _

theorem inferEntries_visits {context : Context} {among : RefKey → Ty → Prop} {sound : Scope → Prop}
    (invariant : Invariant context among sound) : ∀ (entries : List (Expr × Expr)) {scope : Scope},
    ((subtermsOfEntries entries).map id).Nodup → sound scope → ∀ part ∈ subtermsOfEntries entries,
    (Log.concat ((inferEntries context scope entries).map fun part => part.1.log ++ part.2.log)).Visited context sound part
  | [], _, _, _ => nofun
  | (key, value) :: rest, scope, distinct, start => by
    obtain ⟨distinct, distinct''⟩ := distinct_append distinct
    obtain ⟨distinct, distinct'⟩ := distinct_append distinct
    intro part inside
    rw [inferEntries]
    rcases List.mem_append.mp inside with inner | later
    · rcases List.mem_append.mp inner with first | second
      · exact ((infer_visits invariant key distinct start part first).left _).left _
      · exact ((infer_visits invariant value distinct' start part second).right _).left _
    · exact (inferEntries_visits invariant rest distinct'' start part later).right _
end

end Expr
end TypedTemplate
