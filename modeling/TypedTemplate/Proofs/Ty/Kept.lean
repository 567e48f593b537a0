import TypedTemplate.Proofs.Ty.Union

namespace TypedTemplate.Ty

open Sorted

-- A collection of normal types that holds those of all literals, and a type with parts
-- if it holds the parts. What is typed from such types has such a type. The unknown
-- type may be among them.
structure Kept (among : Ty → Prop) : Prop where
  normal : ∀ {type}, among type → Normal type
  null : among null
  bool : among bool
  int : among int
  float : among float
  string : among string
  list : ∀ {element}, among (list element) ↔ among element
  map : ∀ {key value}, among (map key value) ↔ among key ∧ among value
  record : ∀ {fields}, IncreasingKeys fields → (among (record fields) ↔ ∀ field ∈ fields, among field.2)
  member : ∀ {type member}, among type → member ∈ type.members → among member
  unionOf : ∀ {types}, types ≠ [] → (∀ type ∈ types, among type) → among (unionOf types)

namespace Kept

theorem normals : Kept Normal where
  normal holds := holds
  null := .null
  bool := .bool
  int := .int
  float := .float
  string := .string
  list := ⟨fun holds => by cases holds with | list parts => exact parts, .list⟩
  map := ⟨fun holds => by cases holds with | map keys values => exact ⟨keys, values⟩, fun both => .map both.1 both.2⟩
  record sorted := ⟨fun holds => by cases holds with | record _ parts => exact parts, .record sorted⟩
  member := Normal.members_normal
  unionOf _ := normal_unionOf

variable {among : Ty → Prop} (kept : Kept among)
include kept

theorem unionOf_of_allowed {types : List Ty} (allowed : among unknown ∨ types ≠ []) (parts : ∀ type ∈ types, among type) :
    among (Ty.unionOf types) := by
  by_cases none : types = []
  · subst none
    exact allowed.resolve_right (absurd rfl)
  · exact kept.unionOf none parts

theorem join {a b : Ty} (first : among a) (second : among b) : among (a.join b) :=
  kept.unionOf (List.cons_ne_nil _ _) (by simp [first, second])

theorem nullable {type : Ty} (holds : among type) : among type.nullable := kept.join holds kept.null

theorem ofFields {fields : List (String × Ty)} (parts : ∀ field ∈ fields, among field.2) : among (Ty.ofFields fields) :=
  (kept.record (entries_increasing fields)).mpr fun field present => parts field (mem_entries present)

theorem of_members {type : Ty} (normal : Normal type) (parts : ∀ member ∈ type.members, among member) : among type := by
  rw [← unionOf_members normal]
  exact kept.unionOf normal.members_ne_nil parts

end Kept

inductive Definite : Ty → Prop where
  | null : Definite null
  | bool : Definite bool
  | int : Definite int
  | float : Definite float
  | string : Definite string
  | list {element : Ty} (part : Definite element) : Definite (list element)
  | map {key value : Ty} (keys : Definite key) (values : Definite value) : Definite (map key value)
  | record {fields : List (String × Ty)} (parts : ∀ field ∈ fields, Definite field.2) : Definite (record fields)
  | union {members : List Ty} (parts : ∀ member ∈ members, Definite member) : Definite (union members)

theorem Definite.ne_unknown {type : Ty} (definite : Definite type) : type ≠ unknown := by
  intro same
  subst same
  cases definite

theorem Definite.members {type member : Ty} (definite : Definite type) (present : member ∈ type.members) :
    Definite member := by
  cases definite with
  | union parts => exact parts member present
  | _ =>
    rw [List.mem_singleton.mp present]
    constructor <;> assumption

theorem Definite.of_members {type : Ty} (normal : Normal type) (parts : ∀ member ∈ type.members, Definite member) :
    Definite type := by
  rcases normal.union_or_single with ⟨shape, _⟩ | shape
  · rw [shape]
    exact .union parts
  · exact parts type (by simp [shape])

theorem Kept.definite : Kept fun type => Normal type ∧ Definite type where
  normal holds := holds.1
  null := ⟨.null, .null⟩
  bool := ⟨.bool, .bool⟩
  int := ⟨.int, .int⟩
  float := ⟨.float, .float⟩
  string := ⟨.string, .string⟩
  list := by
    intro element
    constructor
    · intro holds
      cases holds.2 with
      | list part => exact ⟨normals.list.mp holds.1, part⟩
    · exact fun holds => ⟨.list holds.1, .list holds.2⟩
  map := by
    intro key value
    constructor
    · intro holds
      obtain ⟨first, second⟩ := normals.map.mp holds.1
      cases holds.2 with
      | map keys values => exact ⟨⟨first, keys⟩, second, values⟩
    · exact fun both => ⟨.map both.1.1 both.2.1, .map both.1.2 both.2.2⟩
  record sorted := by
    constructor
    · intro holds field present
      cases holds.2 with
      | record parts => exact ⟨(normals.record sorted).mp holds.1 field present, parts field present⟩
    · exact fun parts => ⟨.record sorted fun field present => (parts field present).1,
        .record fun field present => (parts field present).2⟩
  member holds present := ⟨holds.1.members_normal present, holds.2.members present⟩
  unionOf some parts := by
    have normal := fun type listed => (parts type listed).1
    have known := fun listed => (parts unknown listed).2.ne_unknown rfl
    refine ⟨normal_unionOf normal, .of_members (normal_unionOf normal) fun member present => ?_⟩
    obtain ⟨type, listed, inside⟩ := (mem_members_unionOf normal known some).mp present
    exact (parts type listed).2.members inside

end TypedTemplate.Ty
