import TypedTemplate.Proofs.Ty.Nullable
import TypedTemplate.Ty.Operation

namespace TypedTemplate.Ty

open Sorted

variable {key : IndexKey}

theorem indexMembers_cons_null {rest : List Ty} : indexMembers key (null :: rest) = indexMembers key rest := rfl

theorem indexMembers_cons {member : Ty} {rest : List Ty} (other : member ≠ null) :
    indexMembers key (member :: rest) = match index key member with
      | .error fault => .error fault
      | .ok type => (indexMembers key rest).map (type :: ·) :=
  if_neg fun same => other (isNull_iff.mp same)

theorem indexMembers_filter (listed : List Ty) :
    indexMembers key (listed.filter fun member => !member.isNull) = indexMembers key listed := by
  induction listed with
  | nil => rfl
  | cons member rest ih =>
    by_cases other : member = null
    · subst other
      rw [indexMembers_cons_null, ← ih]; rfl
    · rw [List.filter_cons_of_pos (by simpa using isNull_eq_false.mpr other), indexMembers_cons other,
        indexMembers_cons other, ih]

theorem indexMembers_ok_iff {listed results : List Ty} : indexMembers key listed = .ok results ↔
    List.Forall₂ (fun member type => index key member = .ok type)
      (listed.filter fun member => !member.isNull) results := by
  induction listed generalizing results with
  | nil => cases results <;> simp [indexMembers]
  | cons member rest ih =>
    by_cases other : member = null
    · subst other
      rw [indexMembers_cons_null, ih]; rfl
    · rw [List.filter_cons_of_pos (by simpa using isNull_eq_false.mpr other), indexMembers_cons other]
      cases found : index key member with
      | error fault => simp [List.forall₂_cons_left_iff, found]
      | ok type =>
        cases results with
        | nil => cases indexMembers key rest <;> simp [Except.map]
        | cons first others =>
          rw [List.forall₂_cons, found, ← ih]
          cases indexMembers key rest <;> simp [Except.map]

theorem indexMembers_total {listed : List Ty}
    (each : ∀ member ∈ listed, member ≠ null → ∃ type, index key member = .ok type) :
    ∃ results, indexMembers key listed = .ok results := by
  induction listed with
  | nil => exact ⟨[], rfl⟩
  | cons member rest ih =>
    obtain ⟨results, found⟩ := ih fun other present => each other (List.mem_cons_of_mem _ present)
    by_cases other : member = null
    · subst other; exact ⟨results, found⟩
    · obtain ⟨type, first⟩ := each member List.mem_cons_self other
      exact ⟨type :: results, by rw [indexMembers_cons other, first, found]; rfl⟩

theorem indexMembers_each {listed results : List Ty} (found : indexMembers key listed = .ok results) {member : Ty}
    (present : member ∈ listed) (other : member ≠ null) : ∃ type, index key member = .ok type := by
  rw [indexMembers_ok_iff] at found
  have asked : member ∈ listed.filter fun member => !member.isNull :=
    List.mem_filter.mpr ⟨present, by simpa using isNull_eq_false.mpr other⟩
  generalize (listed.filter fun member => !member.isNull) = members at found asked
  induction found with
  | nil => cases asked
  | cons head _ ih =>
    rcases List.mem_cons.mp asked with same | later
    · subst same
      exact ⟨_, head⟩
    · exact ih later

theorem mem_results_iff {listed results : List Ty} (found : indexMembers key listed = .ok results) {type : Ty} :
    type ∈ results ↔ ∃ member ∈ listed, member ≠ null ∧ index key member = .ok type := by
  have asked : ∀ {members results : List Ty},
      List.Forall₂ (fun member type => index key member = .ok type) members results →
      (type ∈ results ↔ ∃ member ∈ members, index key member = .ok type) := by
    intro members results each
    induction each with
    | nil => simp
    | cons head _ ih => simp [ih, head, eq_comm]
  rw [asked (indexMembers_ok_iff.mp found)]
  simp only [List.mem_filter, Bool.not_eq_true', isNull_eq_false, and_assoc]

theorem index_union_ok_iff {listed : List Ty} {result : Ty} :
    index key (union listed) = .ok result ↔ ∃ results, indexMembers key listed = .ok results ∧ unionOf results = result := by
  rw [index]
  cases indexMembers key listed <;> simp [Except.map]

theorem Kept.index {among : Ty → Prop} (kept : Kept among) {type result : Ty} (holds : among type)
    (found : Ty.index key type = .ok result) : among result := by
  induction kept.normal holds generalizing result with
  | unknown => cases found; exact holds
  | null | bool | int | float | string => cases found
  | list =>
    simp only [Ty.index, listIndex] at found
    split at found
    · split at found <;> cases found
      exact kept.list.mp holds
    · cases found; exact kept.int
    · cases found
  | map =>
    simp only [Ty.index, mapIndex] at found
    split at found
    all_goals
      split at found <;> cases found
      exact (kept.map.mp holds).2
  | record sorted =>
    simp only [Ty.index, recordIndex] at found
    split at found
    · split at found <;> cases found
      rename_i named
      exact (kept.record sorted).mp holds _ (mem_of_lookup named)
    · cases found
  | @union listed several sorted flat parts ih =>
    obtain ⟨results, each, rfl⟩ := index_union_ok_iff.mp found
    have some : results ≠ [] := by
      obtain ⟨member, present, other⟩ := (Normal.union several sorted flat parts).exists_present (by simp)
      obtain ⟨type, head⟩ := indexMembers_each each present other
      exact List.ne_nil_of_mem ((mem_results_iff each).mpr ⟨member, present, other, head⟩)
    refine kept.unionOf some fun type present => ?_
    obtain ⟨member, listed, _, head⟩ := (mem_results_iff each).mp present
    exact ih member listed (kept.member holds listed) head

theorem normal_index {type result : Ty} (normal : Normal type) (found : index key type = .ok result) : Normal result :=
  Kept.normals.index normal found

theorem index_eq_members {type : Ty} (normal : Normal type) (other : type ≠ null) :
    index key type = (indexMembers key type.members).map unionOf := by
  rcases normal.union_or_single with ⟨shape, _⟩ | shape
  · rw [shape]; rfl
  · rw [shape, indexMembers_cons other]
    cases found : index key type with
    | error fault => rfl
    | ok result =>
      show .ok result = Except.ok (unionOf [result])
      rw [unionOf_single (normal_index normal found)]

theorem index_removeNull {type : Ty} (normal : Normal type) (other : type ≠ null) :
    index key type.removeNull = index key type := by
  by_cases nullable : type.isNullable
  · obtain ⟨normal', known, inside⟩ := removeNull_nullable normal nullable other
    have rest : type.removeNull.members = type.members.filter fun member => !member.isNull := by
      refine normal'.members_increasing.eq_of_mem_iff (normal.members_increasing.sublist List.filter_sublist) fun member => ?_
      rw [inside, List.mem_filter, Bool.not_eq_true', isNull_eq_false]
    rw [index_eq_members normal' (removeNull_ne_null normal other), index_eq_members normal other, rest, indexMembers_filter]
  · rw [removeNull_of_not_nullable normal (by simpa using nullable)]

theorem index_share {type : Ty} (normal : Normal type) (nullable : type.isNullable) {share : Share}
    (other : share.of type ≠ null) : index key (share.of type) = index key type := by
  cases share with
  | whole => rfl
  | present =>
    refine index_removeNull normal fun same => ?_
    subst same
    exact other rfl
  | absent => exact absurd rfl other

section element

theorem elements_eq_some_iff {listed types : List Ty} : elements listed = some types ↔ listed = types.map list := by
  induction listed generalizing types with
  | nil => cases types <;> simp [elements]
  | cons member rest ih =>
    cases member with
    | list element => cases types <;> simp [elements, ih, Option.map_eq_some_iff, and_comm]
    | _ => cases types <;> simp [elements]

theorem element_ok_iff {type result : Ty} (normal : Normal type) (known : type ≠ unknown) (other : type ≠ null) :
    element type = .ok result ↔
      ∃ types : List Ty, (type.members.filter fun member => !member.isNull) = types.map list ∧ unionOf types = result := by
  cases normal with
  | unknown => exact absurd rfl known
  | null => exact absurd rfl other
  | list parts =>
    simp only [element, members, List.filter_cons_of_pos, isNull, Bool.not_false, List.filter_nil, Except.ok.injEq]
    constructor
    · intro same
      exact ⟨[result], by rw [same]; rfl, unionOf_single (same ▸ parts)⟩
    · intro some
      obtain ⟨types, shape, same⟩ := some
      cases types with
      | nil => cases shape
      | cons first rest =>
        rw [List.map_cons, List.cons.injEq, list.injEq, List.nil_eq, List.map_eq_nil_iff] at shape
        obtain ⟨head, empty⟩ := shape
        subst head empty
        exact (unionOf_single parts).symm.trans same
  | @union listed =>
    simp only [element, members]
    cases each : elements (listed.filter fun member => !member.isNull) with
    | none =>
      constructor
      · intro found
        cases found
      · intro some
        obtain ⟨types, shape, _⟩ := some
        rw [elements_eq_some_iff.mpr shape] at each
        cases each
    | some types =>
      rw [elements_eq_some_iff] at each
      simp [each, List.map_inj_right fun _ _ => list.inj]
  | _ =>
    constructor
    · intro found
      cases found
    · intro some
      obtain ⟨types, shape, _⟩ := some
      cases types with
      | nil => cases shape
      | cons first rest => cases shape

theorem exists_map_list {listed : List Ty} (each : ∀ member ∈ listed, ∃ element, member = list element) :
    ∃ types : List Ty, listed = types.map list := by
  induction listed with
  | nil => exact ⟨[], rfl⟩
  | cons member rest ih =>
    obtain ⟨element, same⟩ := each member List.mem_cons_self
    obtain ⟨types, others⟩ := ih fun other present => each other (List.mem_cons_of_mem _ present)
    exact ⟨element :: types, by rw [same, others]; rfl⟩

end element

section gathering

structure Lawful (rule : Ty → Ty → Prop) : Prop where
  unique : ∀ {member result result'}, rule member result → rule member result' → result = result'
  normal : ∀ {member result}, Normal member → rule member result → Normal result

-- That a rule finds something for every alternative of a type but `null`, and what it finds.
structure Gathered (rule : Ty → Ty → Prop) (type : Ty) (results : List Ty) : Prop where
  each : ∀ member ∈ type.members, member ≠ null → ∃ result, rule member result
  found : ∀ {result}, result ∈ results ↔ ∃ member ∈ type.members, member ≠ null ∧ rule member result

variable {rule : Ty → Ty → Prop} {type result : Ty} {results : List Ty}

namespace Gathered

theorem ne_nil (gathered : Gathered rule type results) (normal : Normal type) (other : type ≠ null) : results ≠ [] := by
  obtain ⟨member, present, differ⟩ := normal.exists_present other
  obtain ⟨result, first⟩ := gathered.each member present differ
  exact List.ne_nil_of_mem (gathered.found.mpr ⟨member, present, differ, first⟩)

theorem normal (gathered : Gathered rule type results) (lawful : Lawful rule) (normal : Normal type) :
    ∀ result ∈ results, Normal result := by
  intro result listed
  obtain ⟨member, present, _, found⟩ := gathered.found.mp listed
  exact lawful.normal (normal.members_normal present) found

theorem unionOf_eq {results' : List Ty} (gathered : Gathered rule type results) (gathered' : Gathered rule type results') :
    unionOf results = unionOf results' :=
  unionOf_congr fun _ => gathered.found.trans gathered'.found.symm

end Gathered

theorem exists_results (lawful : Lawful rule) {listed : List Ty}
    (each : ∀ member ∈ listed, member ≠ null → ∃ result, rule member result) :
    ∃ results : List Ty, ∀ result, result ∈ results ↔ ∃ member ∈ listed, member ≠ null ∧ rule member result := by
  induction listed with
  | nil => exact ⟨[], by simp⟩
  | cons member rest ih =>
    rw [List.forall_mem_cons] at each
    obtain ⟨results, found⟩ := ih each.2
    by_cases other : member = null
    · exact ⟨results, fun result => by simp [found, other]⟩
    · obtain ⟨first, here⟩ := each.1 other
      have only (result : Ty) : rule member result ↔ result = first :=
        ⟨fun also => lawful.unique also here, fun same => same ▸ here⟩
      exact ⟨first :: results, fun result => by simp [found, other, only]⟩

theorem Gathered.exists (lawful : Lawful rule)
    (each : ∀ member ∈ type.members, member ≠ null → ∃ result, rule member result) : ∃ results, Gathered rule type results := by
  obtain ⟨results, found⟩ := exists_results lawful each
  exact ⟨results, each, fun {result} => found result⟩

def Indexed (key : IndexKey) (member result : Ty) : Prop := index key member = .ok result

def Looped (member result : Ty) : Prop := member = list result

theorem indexed_lawful (key : IndexKey) : Lawful (Indexed key) where
  unique found found' := Except.ok.inj (found.symm.trans found')
  normal normal found := normal_index normal found

theorem looped_lawful : Lawful Looped where
  unique found found' := list.inj (found.symm.trans found')
  normal := by
    rintro _ result normal rfl
    exact Kept.normals.list.mp normal

theorem index_ok_iff_gathered (normal : Normal type) (other : type ≠ null) :
    index key type = .ok result ↔ ∃ results, Gathered (Indexed key) type results ∧ unionOf results = result := by
  have gathered {results : List Ty} (found : indexMembers key type.members = .ok results) :
      Gathered (Indexed key) type results :=
    ⟨fun _ present differ => indexMembers_each found present differ, mem_results_iff found⟩
  rw [index_eq_members normal other]
  constructor
  · intro whole
    cases found : indexMembers key type.members with
    | error fault => rw [found] at whole; cases whole
    | ok results =>
      rw [found] at whole
      exact ⟨results, gathered found, Except.ok.inj whole⟩
  · rintro ⟨results, all, rfl⟩
    obtain ⟨results', found⟩ := indexMembers_total all.each
    rw [found]
    exact congrArg Except.ok ((gathered found).unionOf_eq all)

theorem element_ok_iff_gathered (normal : Normal type) (known : type ≠ unknown) (other : type ≠ null) :
    element type = .ok result ↔ ∃ results, Gathered Looped type results ∧ unionOf results = result := by
  have gathered {types : List Ty} (shape : (type.members.filter fun member => !member.isNull) = types.map list) :
      Gathered Looped type types := by
    have part (member : Ty) : (member ∈ type.members ∧ member ≠ null) ↔ ∃ element ∈ types, list element = member := by
      rw [← List.mem_map, ← shape, List.mem_filter, Bool.not_eq_true', isNull_eq_false]
    refine ⟨fun member present differ => ?_, fun {result} => ?_⟩
    · obtain ⟨element, _, same⟩ := (part member).mp ⟨present, differ⟩
      exact ⟨element, same.symm⟩
    · simp only [← and_assoc, part, Looped]
      simp
  rw [element_ok_iff normal known other]
  constructor
  · rintro ⟨types, shape, same⟩
    exact ⟨types, gathered shape, same⟩
  · rintro ⟨results, all, rfl⟩
    obtain ⟨types, shape⟩ : ∃ types : List Ty, (type.members.filter fun member => !member.isNull) = types.map list := by
      refine exists_map_list fun member kept => ?_
      rw [List.mem_filter, Bool.not_eq_true', isNull_eq_false] at kept
      exact all.each member kept.1 kept.2
    exact ⟨types, shape, (gathered shape).unionOf_eq all⟩

theorem Kept.element {among : Ty → Prop} (kept : Kept among) (holds : among type) (found : Ty.element type = .ok result) :
    among result := by
  have normal := kept.normal holds
  by_cases known : type = .unknown
  · subst known
    cases found
    exact holds
  by_cases other : type = .null
  · subst other
    cases found
  obtain ⟨results, gathered, rfl⟩ := (element_ok_iff_gathered normal known other).mp found
  refine kept.unionOf (gathered.ne_nil normal other) fun part listed => ?_
  obtain ⟨member, present, _, rfl⟩ := gathered.found.mp listed
  exact kept.list.mp (kept.member holds present)

end gathering

section arithmetic

variable {operator : BinaryOperator} {a b result : Ty}

theorem arithmetic_eq (a b : Ty) : arithmetic operator a b =
    if a = unknown ∨ b = unknown then .ok unknown
    else if a = int ∧ b = int then .ok int
    else if a.isNumeric ∧ b.isNumeric then .ok float
    else .error (badOperands operator.symbol [a, b]) := by
  cases a <;> cases b <;> simp [arithmetic, isUnknown]

theorem negate_eq (operand : Ty) : negate operand =
    if operand = unknown ∨ operand = int ∨ operand = float then .ok operand
    else if operand.isNumeric then .ok float
    else .error (badOperands "-" [operand]) := by
  cases operand <;> simp [negate]

theorem Kept.arithmetic {among : Ty → Prop} (kept : Kept among) (first : among a) (second : among b)
    (found : Ty.arithmetic operator a b = .ok result) : among result := by
  rw [arithmetic_eq] at found
  split at found
  · rename_i absorbed
    cases found
    exact absorbed.elim (fun same => same ▸ first) fun same => same ▸ second
  split at found
  · cases found; exact kept.int
  split at found
  · cases found; exact kept.float
  · cases found

theorem plus_eq (a b : Ty) : plus a b = if a = string ∨ b = string then .ok string else arithmetic .plus a b := by
  cases a <;> cases b <;> simp [plus, isString]

theorem Kept.plus {among : Ty → Prop} (kept : Kept among) (first : among a) (second : among b)
    (found : Ty.plus a b = .ok result) : among result := by
  rw [plus_eq] at found
  split at found
  · cases found; exact kept.string
  · exact kept.arithmetic first second found

theorem Kept.negate {among : Ty → Prop} (kept : Kept among) (holds : among a) (found : Ty.negate a = .ok result) :
    among result := by
  rw [negate_eq] at found
  split at found
  · cases found; exact holds
  split at found
  · cases found; exact kept.float
  · cases found

end arithmetic
end TypedTemplate.Ty
