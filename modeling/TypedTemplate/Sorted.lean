namespace TypedTemplate.Sorted

-- Sets and finite maps as lists in increasing order without repetition, so that
-- two of them with the same content are the same list.
variable {κ α : Type} [Ord κ]

def insertEntry (key : κ) (value : α) : List (κ × α) → List (κ × α)
  | [] => [(key, value)]
  | (key', value') :: rest =>
    match compare key key' with
    | .lt => (key, value) :: (key', value') :: rest
    | .eq => (key, value) :: rest
    | .gt => (key', value') :: insertEntry key value rest

theorem lookup_insertEntry [BEq κ] [LawfulBEq κ] [Std.LawfulEqOrd κ] (asked key : κ) (value : α)
    (pairs : List (κ × α)) :
    (insertEntry key value pairs).lookup asked = if asked == key then some value else pairs.lookup asked := by
  induction pairs with
  | nil => cases same : asked == key <;> simp [insertEntry, List.lookup_cons, same]
  | cons pair rest ih =>
    obtain ⟨key', value'⟩ := pair
    unfold insertEntry
    split
    · cases same : asked == key <;> simp [List.lookup_cons, same]
    · rename_i equal
      have same := Std.compare_eq_iff_eq.mp equal
      subst same
      cases same : asked == key <;> simp [List.lookup_cons, same]
    · rename_i greater
      cases other : asked == key'
      · simp [List.lookup_cons, other, ih]
      · have same := eq_of_beq other
        subst same
        cases equal : asked == key
        · simp
        · rw [eq_of_beq equal, Std.ReflOrd.compare_self] at greater
          cases greater

def entries (pairs : List (κ × α)) : List (κ × α) :=
  pairs.foldl (fun collected pair => insertEntry pair.1 pair.2 collected) []

def insertMember (x : κ) : List κ → List κ
  | [] => [x]
  | y :: rest =>
    match compare x y with
    | .lt => x :: y :: rest
    | .eq => y :: rest
    | .gt => y :: insertMember x rest

def members (xs : List κ) : List κ := xs.foldr insertMember []

theorem mem_insertMember [Std.LawfulEqOrd κ] {a x : κ} {xs : List κ} :
    a ∈ insertMember x xs ↔ a = x ∨ a ∈ xs := by
  induction xs with
  | nil => simp [insertMember]
  | cons y rest ih =>
    unfold insertMember
    split
    · simp
    · rename_i equal
      have same := Std.compare_eq_iff_eq.mp equal
      subst same
      simp
    · simp [ih, or_left_comm]

theorem mem_members [Std.LawfulEqOrd κ] {a : κ} {xs : List κ} : a ∈ members xs ↔ a ∈ xs := by
  induction xs with
  | nil => simp [members]
  | cons x rest ih =>
    have step : members (x :: rest) = insertMember x (members rest) := rfl
    rw [step, mem_insertMember, ih, List.mem_cons]

end TypedTemplate.Sorted
