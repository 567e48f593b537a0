import TypedTemplate.Proofs.Ty.Blur
import TypedTemplate.Proofs.Ty.Decidable
import TypedTemplate.Proofs.Ty.Operation

namespace TypedTemplate

open Ty (Normal Blurs Alike)

def Follows (rule rule' : Except Fault Ty) : Prop :=
  ∀ type, rule = .ok type → ∃ type', rule' = .ok type' ∧ Blurs type type'

theorem follows_unknown (rule : Except Fault Ty) : Follows rule (.ok .unknown) :=
  fun type _ => ⟨.unknown, rfl, .unknown type⟩

theorem follows_ok {type type' : Ty} (blurs : Blurs type type') : Follows (.ok type) (.ok type') := by
  intro found same
  cases same
  exact ⟨type', rfl, blurs⟩

theorem follows_error {fault : Fault} {rule' : Except Fault Ty} : Follows (.error fault) rule' := nofun

inductive IndexKey.Blurs : IndexKey → IndexKey → Prop where
  | field (name : String) : Blurs (.field name) (.field name)
  | value {type type' : Ty} (normal : type.Normal) (normal' : type'.Normal) (blurs : type.Blurs type') :
      Blurs (.value type) (.value type')

namespace Ty

section index

variable {key key' : IndexKey} (keys : key.Blurs key')
include keys

theorem listIndex_follows {element element' : Ty} (parts : Blurs element element') :
    Follows (listIndex element key) (listIndex element' key') := by
  cases keys with
  | field name =>
    unfold listIndex
    split
    · rename_i same; cases same
    · exact follows_ok (blurs_self .int)
    · exact follows_error
  | @value type type' normal normal' blurs =>
    simp only [listIndex]
    split
    · rename_i fits
      rw [if_pos (assignable_blurs normal normal' .int .int blurs (blurs_self .int) fits)]
      exact follows_ok parts
    · exact follows_error

theorem mapIndex_follows {keyType keyType' value value' : Ty} (wanted : Normal keyType) (wanted' : Normal keyType')
    (wider : Blurs keyType keyType') (parts : Blurs value value') :
    Follows (mapIndex keyType value key) (mapIndex keyType' value' key') := by
  cases keys with
  | field name =>
    simp only [mapIndex]
    split
    · rename_i fits
      rw [if_pos (assignable_blurs .string .string wanted wanted' (blurs_self .string) wider fits)]
      exact follows_ok parts
    · exact follows_error
  | @value type type' normal normal' blurs =>
    simp only [mapIndex]
    split
    · rename_i fits
      rw [if_pos (assignable_blurs normal normal' wanted wanted' blurs wider fits)]
      exact follows_ok parts
    · exact follows_error

theorem recordIndex_follows {fields fields' : List (String × Ty)} (parts : AlikeFields fields fields') :
    Follows (recordIndex fields key) (recordIndex fields' key') := by
  cases keys with
  | field name =>
    intro type found
    simp only [recordIndex] at found
    split at found
    · rename_i named
      cases found
      obtain ⟨type', named', blurs⟩ := parts.lookup named
      exact ⟨type', by rw [recordIndex, named'], blurs⟩
    · cases found
  | value => exact follows_error

theorem index_alike {member member' : Ty} (normal : Normal member) (normal' : Normal member')
    (alike : Alike member member') : Follows (index key member) (index key' member') := by
  cases alike with
  | list parts => exact listIndex_follows keys parts
  | map wider parts =>
    cases normal with
    | map wanted _ =>
      cases normal' with
      | map wanted' _ => exact mapIndex_follows keys wanted wanted' wider parts
  | record parts => exact recordIndex_follows keys parts
  | _ => exact follows_error

end index

-- What alike alternatives give where less is known gives, taken together, no more than it did.
theorem gathered_follows {rule rule' : Ty → Ty → Prop} (lawful : Lawful rule) (lawful' : Lawful rule') {type type' : Ty}
    (normal : Normal type) (normal' : Normal type') (known : type' ≠ unknown) (blurs : Blurs type type')
    (follow : ∀ {member member' result}, Normal member → Normal member' → Alike member member' → rule member result →
      ∃ result', rule' member' result' ∧ Blurs result result') {results : List Ty} (gathered : Gathered rule type results) :
    ∃ results', Gathered rule' type' results' ∧ Blurs (unionOf results) (unionOf results') := by
  have back {member' : Ty} (present' : member' ∈ type'.members) (differ' : member' ≠ null) :
      ∃ result ∈ results, ∃ result', rule' member' result' ∧ Blurs result result' := by
    obtain ⟨member, present, alike⟩ := blurs.back known present'
    have differ := mt alike.null_iff.mp differ'
    obtain ⟨result, found⟩ := gathered.each member present differ
    exact ⟨result, gathered.found.mpr ⟨member, present, differ, found⟩,
      follow (normal.members_normal present) (normal'.members_normal present') alike found⟩
  obtain ⟨results', gathered'⟩ : ∃ results', Gathered rule' type' results' := by
    refine Gathered.exists lawful' fun member' present' differ' => ?_
    obtain ⟨_, _, result', found', _⟩ := back present' differ'
    exact ⟨result', found'⟩
  refine ⟨results', gathered', unionOf_blurs (gathered.normal lawful normal) (gathered'.normal lawful' normal') ?_ ?_⟩
  · intro result listed
    obtain ⟨member, present, differ, found⟩ := gathered.found.mp listed
    obtain ⟨member', present', alike⟩ := blurs.forth known present
    obtain ⟨result', found', blurs'⟩ := follow (normal.members_normal present) (normal'.members_normal present') alike found
    exact ⟨result', gathered'.found.mpr ⟨member', present', mt alike.null_iff.mpr differ, found'⟩, blurs'⟩
  · intro result' listed'
    obtain ⟨member', present', differ', found'⟩ := gathered'.found.mp listed'
    obtain ⟨result, listed, other, found, blurs'⟩ := back present' differ'
    exact ⟨result, listed, lawful'.unique found found' ▸ blurs'⟩

theorem index_follows {key key' : IndexKey} (keys : key.Blurs key') {type type' : Ty} (normal : Normal type)
    (normal' : Normal type') (blurs : Blurs type type') : Follows (index key type) (index key' type') := by
  by_cases known : type' = unknown
  · subst known
    exact follows_unknown _
  by_cases other : type = null
  · subst other
    exact follows_error
  have other' : type' ≠ null := mt (blurs.null_iff known normal normal').mpr other
  intro result found
  obtain ⟨results, gathered, rfl⟩ := (index_ok_iff_gathered normal other).mp found
  obtain ⟨results', gathered', blurs'⟩ := gathered_follows (indexed_lawful key) (indexed_lawful key') normal normal' known blurs
    (fun normal normal' alike found => index_alike keys normal normal' alike _ found) gathered
  exact ⟨_, (index_ok_iff_gathered normal' other').mpr ⟨results', gathered', rfl⟩, blurs'⟩

theorem element_follows {type type' : Ty} (normal : Normal type) (normal' : Normal type') (blurs : Blurs type type') :
    Follows (element type) (element type') := by
  by_cases known : type' = unknown
  · subst known
    exact follows_unknown _
  by_cases other : type = null
  · subst other
    exact follows_error
  have other' : type' ≠ null := mt (blurs.null_iff known normal normal').mpr other
  intro result found
  obtain ⟨results, gathered, rfl⟩ := (element_ok_iff_gathered normal (blurs.known_left known) other).mp found
  have follow {member member' result : Ty} (alike : Alike member member') (found : Looped member result) :
      ∃ result', Looped member' result' ∧ Blurs result result' := by
    subst found
    cases alike with
    | list parts => exact ⟨_, rfl, parts⟩
  obtain ⟨results', gathered', blurs'⟩ := gathered_follows looped_lawful looped_lawful normal normal' known blurs
    (fun _ _ alike found => follow alike found) gathered
  exact ⟨_, (element_ok_iff_gathered normal' known other').mpr ⟨results', gathered', rfl⟩, blurs'⟩

section arithmetic

theorem Alike.isNumber_eq {a b : Ty} (alike : Alike a b) : a.isNumber = b.isNumber := by
  cases alike <;> rfl

theorem Alike.int_iff {a b : Ty} (alike : Alike a b) : a = .int ↔ b = .int := by
  cases alike <;> simp

theorem Alike.float_iff {a b : Ty} (alike : Alike a b) : a = .float ↔ b = .float := by
  cases alike <;> simp

theorem Alike.string_iff {a b : Ty} (alike : Alike a b) : a = .string ↔ b = .string := by
  cases alike <;> simp

theorem Blurs.isNumeric_iff {a b : Ty} (blurs : Blurs a b) (known : b ≠ .unknown) : a.isNumeric ↔ b.isNumeric := by
  rw [isNumeric, isNumeric, List.all_eq_true, List.all_eq_true]
  constructor
  · intro numbers member' present'
    obtain ⟨member, present, alike⟩ := blurs.back known present'
    rw [← alike.isNumber_eq]
    exact numbers member present
  · intro numbers member present
    obtain ⟨member', present', alike⟩ := blurs.forth known present
    rw [alike.isNumber_eq]
    exact numbers member' present'

theorem Blurs.int_iff {a b : Ty} (blurs : Blurs a b) (known : b ≠ .unknown) (normal : Normal a) (normal' : Normal b) :
    a = .int ↔ b = .int := blurs.eq_iff known rfl Alike.int_iff normal normal'

theorem negate_follows {operand operand' : Ty} (normal : Normal operand) (normal' : Normal operand')
    (blurs : Blurs operand operand') : Follows (negate operand) (negate operand') := by
  by_cases known : operand' = unknown
  · subst known
    exact follows_unknown _
  intro type found
  have known' := blurs.known_left known
  have float_iff := blurs.eq_iff known rfl Alike.float_iff normal normal'
  simp only [negate_eq, known', known, false_or, blurs.int_iff known normal normal', float_iff,
    blurs.isNumeric_iff known] at found ⊢
  split at found
  · rename_i plain
    cases found
    rw [if_pos plain]
    exact ⟨operand', rfl, blurs⟩
  split at found
  · rename_i plain numeric
    cases found
    rw [if_neg plain, if_pos numeric]
    exact ⟨.float, rfl, blurs_self .float⟩
  · cases found

variable {a a' b b' : Ty} (first : Normal a) (first' : Normal a') (second : Normal b)
  (second' : Normal b') (left : Blurs a a') (right : Blurs b b')
include first first' second second' left right

theorem arithmetic_blurs (operator : BinaryOperator) : arithmetic operator a' b' = .ok .unknown ∨
    ∀ type, arithmetic operator a' b' = .ok type ↔ arithmetic operator a b = .ok type := by
  by_cases absorbed : a' = unknown ∨ b' = unknown
  · rw [arithmetic_eq, if_pos absorbed]
    exact .inl rfl
  obtain ⟨known, known'⟩ := not_or.mp absorbed
  have absorbed' : ¬(a = unknown ∨ b = unknown) := not_or.mpr ⟨left.known_left known, right.known_left known'⟩
  right
  intro type
  simp only [arithmetic_eq, if_neg absorbed, if_neg absorbed', left.int_iff known first first',
    right.int_iff known' second second', left.isNumeric_iff known, right.isNumeric_iff known']
  split
  · rfl
  split
  · rfl
  · exact iff_of_false nofun nofun

theorem arithmetic_follows (operator : BinaryOperator) : Follows (arithmetic operator a b) (arithmetic operator a' b') := by
  rcases arithmetic_blurs first first' second second' left right operator with unknown | same
  · rw [unknown]
    exact follows_unknown _
  · intro type found
    exact ⟨type, (same type).mpr found, blurs_self (Kept.normals.arithmetic first second found)⟩

theorem plus_follows : Follows (plus a b) (plus a' b') := by
  have stays {c c' : Ty} (normal : Normal c) (normal' : Normal c') (blurs : Blurs c c') (same : c = string)
      (differ : c' ≠ string) : c' = unknown := by
    by_contra known
    exact differ ((blurs.eq_iff known rfl Alike.string_iff normal normal').mp same)
  rw [plus_eq, plus_eq]
  by_cases text' : a' = string ∨ b' = string
  · rw [if_pos text']
    have text : a = string ∨ b = string := by
      rcases text' with same | same
      · exact .inl ((left.eq_iff (by simp [same]) rfl Alike.string_iff first first').mpr same)
      · exact .inr ((right.eq_iff (by simp [same]) rfl Alike.string_iff second second').mpr same)
    rw [if_pos text]
    exact follows_ok (blurs_self .string)
  rw [if_neg text']
  obtain ⟨differ, differ'⟩ := not_or.mp text'
  split
  · rename_i text
    have absorbed : a' = unknown ∨ b' = unknown := by
      rcases text with same | same
      · exact .inl (stays first first' left same differ)
      · exact .inr (stays second second' right same differ')
    rw [arithmetic_eq, if_pos absorbed]
    exact follows_unknown _
  · exact arithmetic_follows first first' second second' left right .plus

end arithmetic

-- With less known of the operands nothing that fitted is refused, and what comes out is what came
-- out before or less is known of it.
theorem operations_monotone {a a' b b' : Ty} (first : Normal a) (first' : Normal a') (second : Normal b)
    (second' : Normal b') (left : Blurs a a') (right : Blurs b b') :
    (assignable a b → assignable a' b') ∧ Follows (plus a b) (plus a' b') ∧
      (∀ operator, Follows (arithmetic operator a b) (arithmetic operator a' b')) ∧
      Follows (negate a) (negate a') ∧ Follows (element a) (element a') ∧
      (∀ name, Follows (index (.field name) a) (index (.field name) a')) ∧
      Follows (index (.value b) a) (index (.value b') a') :=
  ⟨assignable_blurs first first' second second' left right, plus_follows first first' second second' left right,
    arithmetic_follows first first' second second' left right, negate_follows first first' left,
    element_follows first first' left, fun name => index_follows (.field name) first first' left,
    index_follows (.value second second' right) first first' left⟩

theorem operations_monotone_lists :
    let lists := union [list int, list string]
    Normal lists ∧ Normal (list unknown) ∧ Blurs lists (list unknown) ∧ Blurs int unknown ∧
      index (.value int) lists = .ok (union [int, string]) ∧
      (∃ type, index (.value unknown) (list unknown) = .ok type ∧ Blurs (union [int, string]) type) ∧
      element lists = .ok (union [int, string]) ∧
      ∃ type, element (list unknown) = .ok type ∧ Blurs (union [int, string]) type := by
  intro lists
  have normal : Normal lists := by decide
  have normal' : Normal (list unknown) := .list .unknown
  have alike (type : Ty) : Alike (list type) (list unknown) := .list (.unknown type)
  have blurs : Blurs lists (list unknown) := blurs_iff.mpr (.inr ⟨by simp [lists, members, alike], by simp [lists, members, alike]⟩)
  obtain ⟨_, _, _, _, elements, _, indexed⟩ := operations_monotone normal normal' .int .unknown blurs (.unknown int)
  exact ⟨normal, normal', blurs, .unknown int, rfl, indexed _ rfl, rfl, elements _ rfl⟩

end Ty
end TypedTemplate
