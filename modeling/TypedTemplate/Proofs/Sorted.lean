import Mathlib.Data.List.Sort
import TypedTemplate.Sorted

namespace TypedTemplate.Sorted

variable {κ α : Type}

theorem lookup_of_mem [BEq κ] [LawfulBEq κ] {pairs : List (κ × α)} {key : κ} {value : α}
    (distinct : (pairs.map Prod.fst).Nodup) (present : (key, value) ∈ pairs) : pairs.lookup key = some value := by
  induction pairs with
  | nil => cases present
  | cons pair rest ih =>
    obtain ⟨key', value'⟩ := pair
    obtain ⟨fresh, others⟩ := List.nodup_cons.mp distinct
    rcases List.mem_cons.mp present with same | later
    · cases same; simp
    · have other : (key == key') = false := by
        rw [beq_eq_false_iff_ne]
        intro same
        exact fresh (List.mem_map.mpr ⟨(key, value), later, same⟩)
      rw [List.lookup_cons, other]
      exact ih others later

theorem mem_of_lookup [BEq κ] [LawfulBEq κ] {pairs : List (κ × α)} {key : κ} {value : α}
    (found : pairs.lookup key = some value) : (key, value) ∈ pairs := by
  obtain ⟨before, after, rfl, _⟩ := List.lookup_eq_some_iff.mp found
  exact List.mem_append_right _ List.mem_cons_self

theorem lookup_eq_none_of_notMem [BEq κ] [LawfulBEq κ] {pairs : List (κ × α)} {key : κ}
    (absent : key ∉ pairs.map Prod.fst) : pairs.lookup key = none := by
  rw [List.lookup_eq_none_iff]
  intro entry present
  rw [bne_iff_ne]
  intro same
  subst same
  exact absent (List.mem_map_of_mem present)

variable [Ord κ]

def Increasing (xs : List κ) : Prop := xs.Pairwise fun x y => compare x y = .lt

def IncreasingKeys (pairs : List (κ × α)) : Prop := Increasing (pairs.map Prod.fst)

theorem Increasing.sublist {xs ys : List κ} (sorted : Increasing ys) (part : xs.Sublist ys) : Increasing xs :=
  List.Pairwise.sublist part sorted

theorem Increasing.nodup [Std.ReflOrd κ] {xs : List κ} (sorted : Increasing xs) : xs.Nodup := by
  refine List.Pairwise.imp ?_ sorted
  intro x y before same
  rw [same, Std.ReflOrd.compare_self] at before
  cases before

theorem IncreasingKeys.lookup_of_mem [Std.ReflOrd κ] [BEq κ] [LawfulBEq κ] {pairs : List (κ × α)} {key : κ} {value : α}
    (sorted : IncreasingKeys pairs) (present : (key, value) ∈ pairs) : pairs.lookup key = some value :=
  Sorted.lookup_of_mem (Increasing.nodup sorted) present

theorem Increasing.eq_of_mem_iff [Std.TransOrd κ] {xs ys : List κ} (first : Increasing xs) (second : Increasing ys)
    (same : ∀ x, x ∈ xs ↔ x ∈ ys) : xs = ys := by
  have irreflexive : Std.Irrefl fun x y : κ => compare x y = .lt :=
    ⟨fun x before => by rw [Std.ReflOrd.compare_self] at before; cases before⟩
  have antisymmetric : Std.Antisymm fun x y : κ => compare x y = .lt :=
    ⟨fun x y before after => by rw [Std.OrientedOrd.eq_swap, after] at before; cases before⟩
  exact List.Pairwise.eq_of_mem_iff first second same

theorem mem_insertEntry {key : κ} {value : α} {pairs : List (κ × α)} {entry : κ × α}
    (present : entry ∈ insertEntry key value pairs) : entry = (key, value) ∨ entry ∈ pairs := by
  induction pairs with
  | nil => simpa [insertEntry] using present
  | cons pair rest ih =>
    obtain ⟨key', value'⟩ := pair
    unfold insertEntry at present
    split at present
    · simpa using present
    · rcases List.mem_cons.mp present with rfl | later
      · exact .inl rfl
      · exact .inr (List.mem_cons_of_mem _ later)
    · rcases List.mem_cons.mp present with rfl | later
      · exact .inr List.mem_cons_self
      · exact (ih later).imp id (List.mem_cons_of_mem _)

theorem mem_entries {pairs : List (κ × α)} {entry : κ × α} (present : entry ∈ entries pairs) : entry ∈ pairs := by
  suffices ∀ start : List (κ × α), entry ∈ pairs.foldl (fun collected pair => insertEntry pair.1 pair.2 collected) start →
      entry ∈ start ∨ entry ∈ pairs from (this [] present).resolve_left List.not_mem_nil
  clear present
  induction pairs with
  | nil => exact fun start present => .inl present
  | cons pair rest ih =>
    intro start present
    rcases ih _ present with inserted | later
    · rcases mem_insertEntry inserted with same | earlier
      · exact .inr (same ▸ List.mem_cons_self)
      · exact .inl earlier
    · exact .inr (List.mem_cons_of_mem _ later)

theorem keys_insertEntry [Std.LawfulEqOrd κ] (key : κ) (value : α) (pairs : List (κ × α)) :
    (insertEntry key value pairs).map Prod.fst = insertMember key (pairs.map Prod.fst) := by
  induction pairs with
  | nil => rfl
  | cons pair rest ih =>
    obtain ⟨key', value'⟩ := pair
    unfold insertEntry insertMember
    simp only [List.map_cons]
    split
    · rfl
    · rename_i equal
      rw [List.map_cons, Std.compare_eq_iff_eq.mp equal]
    · rw [List.map_cons, ih]

variable [Std.TransOrd κ] [Std.LawfulEqOrd κ]

theorem insertMember_increasing {x : κ} {xs : List κ} (sorted : Increasing xs) : Increasing (insertMember x xs) := by
  induction xs with
  | nil => exact List.pairwise_singleton _ _
  | cons y rest ih =>
    obtain ⟨first, others⟩ := List.pairwise_cons.mp sorted
    unfold insertMember
    split
    · rename_i before
      refine List.pairwise_cons.mpr ⟨?_, sorted⟩
      intro z present
      rcases List.mem_cons.mp present with rfl | later
      · exact before
      · exact Std.TransCmp.lt_trans before (first z later)
    · exact sorted
    · rename_i after
      refine List.pairwise_cons.mpr ⟨?_, ih others⟩
      intro z present
      rcases mem_insertMember.mp present with rfl | later
      · exact Std.OrientedCmp.gt_iff_lt.mp after
      · exact first z later

theorem members_increasing (xs : List κ) : Increasing (members xs) := by
  induction xs with
  | nil => exact List.Pairwise.nil
  | cons x rest ih => exact insertMember_increasing ih

theorem insertEntry_increasing (key : κ) (value : α) {pairs : List (κ × α)} (sorted : IncreasingKeys pairs) :
    IncreasingKeys (insertEntry key value pairs) := by
  unfold IncreasingKeys
  rw [keys_insertEntry]
  exact insertMember_increasing sorted

theorem entries_increasing (pairs : List (κ × α)) : IncreasingKeys (entries pairs) := by
  suffices ∀ start : List (κ × α), IncreasingKeys start →
      IncreasingKeys (pairs.foldl (fun collected pair => insertEntry pair.1 pair.2 collected) start) from
    this [] List.Pairwise.nil
  induction pairs with
  | nil => exact fun _ sorted => sorted
  | cons pair rest ih => exact fun start sorted => ih _ (insertEntry_increasing pair.1 pair.2 sorted)

omit [Std.LawfulEqOrd κ] in
theorem insertEntry_last {key : κ} (value : α) {pairs : List (κ × α)}
    (before : ∀ earlier ∈ pairs.map Prod.fst, compare earlier key = .lt) :
    insertEntry key value pairs = pairs ++ [(key, value)] := by
  induction pairs with
  | nil => rfl
  | cons pair rest ih =>
    rw [List.map_cons, List.forall_mem_cons] at before
    have after : compare key pair.1 = .gt := Std.OrientedCmp.gt_iff_lt.mpr before.1
    rw [insertEntry, after]
    exact congrArg (pair :: ·) (ih before.2)

omit [Std.LawfulEqOrd κ] in
theorem entries_of_increasing {pairs : List (κ × α)} (sorted : IncreasingKeys pairs) : entries pairs = pairs := by
  suffices ∀ start : List (κ × α), IncreasingKeys (start ++ pairs) →
      pairs.foldl (fun collected pair => insertEntry pair.1 pair.2 collected) start = start ++ pairs from this [] sorted
  clear sorted
  induction pairs with
  | nil => exact fun start _ => (List.append_nil start).symm
  | cons pair rest ih =>
    intro start sorted
    have before : ∀ earlier ∈ start.map Prod.fst, compare earlier pair.1 = .lt := by
      intro earlier present
      rw [IncreasingKeys, List.map_append] at sorted
      exact (List.pairwise_append.mp sorted).2.2 earlier present pair.1 List.mem_cons_self
    have whole : start ++ pair :: rest = start ++ [pair] ++ rest := by simp
    rw [List.foldl_cons, insertEntry_last pair.2 before, whole]
    exact ih _ (whole ▸ sorted)

end TypedTemplate.Sorted
