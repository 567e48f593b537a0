import TypedTemplate.Proofs.Ty.Decidable

namespace TypedTemplate.Ty

theorem unionOf_append_unionOf {types more : List Ty} (normal : ∀ type ∈ types, Normal type)
    (normal' : ∀ type ∈ more, Normal type) (some : more ≠ []) :
    unionOf (types ++ [unionOf more]) = unionOf (types ++ more) := by
  by_cases absorbed : unknown ∈ types ++ more
  · rw [unionOf_unknown absorbed]
    apply unionOf_unknown
    rw [List.mem_append, List.mem_singleton]
    exact (List.mem_append.mp absorbed).imp id fun inside => (unionOf_unknown inside).symm
  obtain ⟨known, known'⟩ := not_or.mp (mt List.mem_append.mpr absorbed)
  have whole : ∀ type ∈ types ++ more, Normal type := List.forall_mem_append.mpr ⟨normal, normal'⟩
  have grouped : ∀ type ∈ types ++ [unionOf more], Normal type :=
    List.forall_mem_append.mpr ⟨normal, List.forall_mem_singleton.mpr (normal_unionOf normal')⟩
  have absorbed' : unknown ∉ types ++ [unionOf more] := by
    rw [List.mem_append, List.mem_singleton, not_or]
    exact ⟨known, (unionOf_ne_unknown normal' known' some).symm⟩
  refine (normal_unionOf grouped).eq_of_mem_members (normal_unionOf whole) fun member => ?_
  rw [mem_members_unionOf grouped absorbed' (by simp), mem_members_unionOf whole absorbed (by simp [some])]
  simp only [List.mem_append, List.mem_singleton, or_and_right, exists_or, exists_eq_left,
    mem_members_unionOf normal' known' some]

theorem join_unionOf {types more : List Ty} (normal : ∀ type ∈ types, Normal type) (normal' : ∀ type ∈ more, Normal type)
    (some : types ≠ []) (some' : more ≠ []) : (unionOf types).join (unionOf more) = unionOf (types ++ more) := by
  have whole : ∀ type ∈ [unionOf types], Normal type := List.forall_mem_singleton.mpr (normal_unionOf normal)
  calc (unionOf types).join (unionOf more)
      = unionOf ([unionOf types] ++ more) := unionOf_append_unionOf whole normal' some'
    _ = unionOf (more ++ [unionOf types]) := unionOf_congr fun type => by simp [or_comm]
    _ = unionOf (more ++ types) := unionOf_append_unionOf normal' normal some
    _ = unionOf (types ++ more) := unionOf_congr fun type => by simp [or_comm]

theorem join_assoc {a b c : Ty} (first : Normal a) (second : Normal b) (third : Normal c) :
    (a.join b).join c = a.join (b.join c) := by
  have single {type : Ty} (normal : Normal type) : ∀ other ∈ [type], Normal other := List.forall_mem_singleton.mpr normal
  calc (a.join b).join c
      = unionOf ([c] ++ [unionOf [a, b]]) := join_comm _ _
    _ = unionOf ([c] ++ [a, b]) := unionOf_append_unionOf (single third) (normal_pair first second) (by simp)
    _ = unionOf ([a] ++ [b, c]) := unionOf_congr fun type => by simp [or_left_comm, or_comm]
    _ = a.join (b.join c) := (unionOf_append_unionOf (single first) (normal_pair second third) (by simp)).symm

-- A union is determined by the types that it is made of: not by their order, by how often each
-- occurs or by how they are grouped.
theorem unionOf_semilattice {types more : List Ty} (normal : ∀ type ∈ types, Normal type)
    (normal' : ∀ type ∈ more, Normal type) (some : more ≠ []) :
    Normal (unionOf types) ∧
    (∀ types' : List Ty, (∀ type, type ∈ types' ↔ type ∈ types) → unionOf types' = unionOf types) ∧
    unionOf (types ++ [unionOf more]) = unionOf (types ++ more) ∧
    ∀ a b c : Ty, Normal a → Normal b → Normal c →
      a.join b = b.join a ∧ (a.join b).join c = a.join (b.join c) ∧ a.join a = a ∧
        a.join unknown = unknown ∧ unknown.join a = unknown :=
  ⟨normal_unionOf normal, fun _ => unionOf_congr, unionOf_append_unionOf normal normal' some,
    fun a b _ first second third => ⟨join_comm a b, join_assoc first second third, join_self first,
      join_unknown (.inr rfl), join_unknown (.inl rfl)⟩⟩

theorem unionOf_semilattice_numbers :
    let types := [union [int, float], null, float]
    let more := [list unknown, union [null, string]]
    (∀ type ∈ types, Normal type) ∧ (∀ type ∈ more, Normal type) ∧ more ≠ [] ∧
      Normal (unionOf types) ∧ unionOf [null, union [int, float], float, null] = unionOf types ∧
      unionOf (types ++ [unionOf more]) = unionOf (types ++ more) ∧
      (union [int, float]).join (union [null, string]) = (union [null, string]).join (union [int, float]) := by
  intro types more
  have normal : ∀ type ∈ types, Normal type := by decide
  have normal' : ∀ type ∈ more, Normal type := by decide
  have some : more ≠ [] := by simp [more]
  have among : [null, union [int, float], float, null] ⊆ types := by decide
  have among' : types ⊆ [null, union [int, float], float, null] := by decide
  obtain ⟨whole, order, grouped, laws⟩ := unionOf_semilattice normal normal' some
  exact ⟨normal, normal', some, whole, order _ fun _ => ⟨(among ·), (among' ·)⟩, grouped,
    (laws _ _ null (by decide) (by decide) .null).1⟩

end TypedTemplate.Ty
