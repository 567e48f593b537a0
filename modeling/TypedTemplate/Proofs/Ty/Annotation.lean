import TypedTemplate.Proofs.Context
import TypedTemplate.Proofs.Ty.Decidable
import TypedTemplate.Proofs.TypeExpr.RoundTrip
import TypedTemplate.Ty

namespace TypedTemplate.Ty

open Lexeme (Identifier)

mutual
def typeExpr : Ty → TypeExpr
  | unknown => .named "?" .nowhere
  | null => .named "null" .nowhere
  | bool => .named "bool" .nowhere
  | int => .named "int" .nowhere
  | float => .named "float" .nowhere
  | string => .named "string" .nowhere
  | list element => .generic "list" [element.typeExpr] .nowhere
  | map key value => .generic "map" [key.typeExpr, value.typeExpr] .nowhere
  | record fields => .record (fieldTypeExprs fields) .nowhere
  | union members =>
    .union (memberTypeExprs members ++ if members.any isNull then [.named "null" .nowhere] else [])

def fieldTypeExprs : List (String × Ty) → List (String × TypeExpr)
  | [] => []
  | (name, type) :: rest => (name, type.typeExpr) :: fieldTypeExprs rest

def memberTypeExprs : List Ty → List TypeExpr
  | [] => []
  | member :: rest => if member.isNull then memberTypeExprs rest else member.typeExpr :: memberTypeExprs rest
end

mutual
def Identified : Ty → Prop
  | list element => element.Identified
  | map key value => key.Identified ∧ value.Identified
  | record fields => FieldsIdentified fields
  | union members => AllIdentified members
  | _ => True

def FieldsIdentified : List (String × Ty) → Prop
  | [] => True
  | (name, type) :: rest => Identifier name ∧ type.Identified ∧ FieldsIdentified rest

def AllIdentified : List Ty → Prop
  | [] => True
  | type :: rest => type.Identified ∧ AllIdentified rest
end

theorem allIdentified_iff {types : List Ty} : AllIdentified types ↔ ∀ type ∈ types, type.Identified := by
  induction types with
  | nil => exact iff_of_true trivial (by simp)
  | cons type rest ih => rw [AllIdentified, List.forall_mem_cons, ih]

theorem fieldsIdentified_iff {fields : List (String × Ty)} :
    FieldsIdentified fields ↔ ∀ field ∈ fields, Identifier field.1 ∧ field.2.Identified := by
  induction fields with
  | nil => exact iff_of_true trivial (by simp)
  | cons field rest ih => rw [FieldsIdentified, List.forall_mem_cons, ih, and_assoc]

theorem texts_append (first second : List TypeExpr) :
    TypeExpr.texts (first ++ second) = TypeExpr.texts first ++ TypeExpr.texts second := by
  induction first with
  | nil => rfl
  | cons typeExpr rest ih => rw [List.cons_append, TypeExpr.texts, TypeExpr.texts, ih, List.cons_append]

mutual
theorem typeExpr_text : ∀ type : Ty, type.typeExpr.text = type.text
  | unknown | null | bool | int | float | string => by simp only [typeExpr, TypeExpr.text, text]
  | list element => by
    rw [typeExpr, TypeExpr.text, TypeExpr.texts, TypeExpr.texts, typeExpr_text element, text]
    rfl
  | map key value => by
    have opening : "map<" = "map" ++ "<" := rfl
    rw [typeExpr, TypeExpr.text, TypeExpr.texts, TypeExpr.texts, TypeExpr.texts, typeExpr_text key,
      typeExpr_text value, text, String.intercalate_cons_cons, String.intercalate_singleton, opening]
    simp only [String.append_assoc]
  | record fields => by rw [typeExpr, TypeExpr.text, fieldTypeExprs_text fields, text]
  | union members => by
    rw [typeExpr, TypeExpr.text, texts_append, memberTypeExprs_text members, text]
    split <;> rfl

theorem fieldTypeExprs_text : ∀ fields : List (String × Ty),
    TypeExpr.fieldTexts (fieldTypeExprs fields) = fieldTexts fields
  | [] => rfl
  | (name, type) :: rest => by
    rw [fieldTypeExprs, TypeExpr.fieldTexts, typeExpr_text type, fieldTypeExprs_text rest, fieldTexts]

theorem memberTypeExprs_text : ∀ members : List Ty, TypeExpr.texts (memberTypeExprs members) = memberTexts members
  | [] => rfl
  | member :: rest => by
    rw [memberTypeExprs, memberTexts]
    split
    · exact memberTypeExprs_text rest
    · rw [TypeExpr.texts, typeExpr_text member, memberTypeExprs_text rest]
end

theorem typeExpr_flat {type : Ty} (alternative : type.isAlternative) : type.typeExpr.isUnion = false := by
  cases type with
  | union members => cases alternative
  | _ => simp only [typeExpr, TypeExpr.isUnion]

theorem memberTypeExprs_eq_map (members : List Ty) :
    memberTypeExprs members = (members.filter fun member => !member.isNull).map typeExpr := by
  induction members with
  | nil => rfl
  | cons member rest ih => by_cases null : member.isNull <;> simp [memberTypeExprs, null, ih]

-- Its `null` apart, which comes last, a union says its members in order.
def reordered (members : List Ty) : List Ty :=
  (members.filter fun member => !member.isNull) ++ if members.any isNull then [null] else []

theorem typeExpr_union (members : List Ty) : (union members).typeExpr = .union ((reordered members).map typeExpr) := by
  rw [typeExpr, memberTypeExprs_eq_map, reordered, List.map_append]
  split <;> rfl

theorem mem_reordered {members : List Ty} {member : Ty} : member ∈ reordered members ↔ member ∈ members := by
  have last : member ∈ (if members.any isNull then [null] else []) ↔ member = null ∧ null ∈ members := by
    by_cases present : null ∈ members
    · rw [if_pos (List.any_eq_true.mpr ⟨null, present, rfl⟩), List.mem_singleton, and_iff_left present]
    · rw [if_neg fun found => ?_]
      · simp [present]
      · obtain ⟨other, listed, same⟩ := List.any_eq_true.mp found
        exact present (isNull_iff.mp same ▸ listed)
  rw [reordered, List.mem_append, List.mem_filter, Bool.not_eq_true', isNull_eq_false, last]
  constructor
  · rintro (⟨listed, _⟩ | ⟨rfl, listed⟩) <;> exact listed
  · intro listed
    by_cases same : member = null
    · exact .inr ⟨same, same ▸ listed⟩
    · exact .inl ⟨listed, same⟩

theorem length_reordered {members : List Ty} (distinct : members.Nodup) : (reordered members).length = members.length := by
  have distinct' : (reordered members).Nodup := by
    refine (distinct.filter _).append ?_ fun member present last => ?_
    · split
      · exact List.nodup_singleton _
      · exact .nil
    · have known := (List.mem_filter.mp present).2
      split at last
      · rw [List.mem_singleton.mp last] at known
        cases known
      · cases last
  exact ((List.perm_ext_iff_of_nodup distinct' distinct).mpr fun _ => mem_reordered).length_eq

theorem fieldTypeExprs_eq_map (fields : List (String × Ty)) :
    fieldTypeExprs fields = fields.map fun field => (field.1, field.2.typeExpr) := by
  induction fields with
  | nil => rfl
  | cons field rest ih => rw [fieldTypeExprs, ih, List.map_cons]

theorem typeExpr_proper {type : Ty} (normal : type.Normal) : type.typeExpr.Proper := by
  induction normal with
  | list _ element => exact ⟨nofun, element, trivial⟩
  | map _ _ key value => exact ⟨nofun, key, value, trivial⟩
  | record _ _ parts =>
    rw [typeExpr, fieldTypeExprs_eq_map, TypeExpr.Proper, TypeExpr.fieldsProper_iff, List.forall_mem_map]
    exact parts
  | union several sorted flat _ parts =>
    rw [typeExpr_union, TypeExpr.Proper, TypeExpr.allProper_iff, List.forall_mem_map, List.forall_mem_map,
      List.length_map, length_reordered sorted.nodup]
    refine ⟨several, fun member listed => ?_, fun member listed => parts member (mem_reordered.mp listed)⟩
    exact typeExpr_flat (flat member (mem_reordered.mp listed))
  | _ => simp only [typeExpr, TypeExpr.Proper]

theorem typeExpr_lexical {type : Ty} (normal : type.Normal) : type.Identified → type.typeExpr.Lexical := by
  induction normal with
  | unknown => exact fun _ => .inl rfl
  | null => exact fun _ => .inr (.inl rfl)
  | bool | int | float | string => exact fun _ => .inr (.inr rfl)
  | list _ element => exact fun identified => ⟨rfl, element identified, trivial⟩
  | map _ _ key value => exact fun identified => ⟨rfl, key identified.1, value identified.2, trivial⟩
  | record _ _ parts =>
    intro identified
    rw [Identified, fieldsIdentified_iff] at identified
    rw [typeExpr, fieldTypeExprs_eq_map, TypeExpr.Lexical, TypeExpr.fieldsLexical_iff, List.forall_mem_map]
    exact fun field listed => ⟨(identified field listed).1, parts field listed (identified field listed).2⟩
  | union _ _ _ _ parts =>
    intro identified
    rw [Identified, allIdentified_iff] at identified
    rw [typeExpr_union, TypeExpr.Lexical, TypeExpr.allLexical_iff, List.forall_mem_map]
    intro member listed
    exact parts member (mem_reordered.mp listed) (identified member (mem_reordered.mp listed))

open TypeExpr (resolve resolveAll resolveFields)

theorem resolveAll_annotations {typeNamed : String → Option Ty} {types : List Ty}
    (each : ∀ type ∈ types, type.typeExpr.resolve typeNamed = .ok type) :
    resolveAll typeNamed (types.map typeExpr) = .ok types := by
  induction types with
  | nil => rfl
  | cons type rest ih =>
    rw [List.forall_mem_cons] at each
    rw [List.map_cons, resolveAll, each.1, ih each.2]
    rfl

theorem resolveFields_annotations {typeNamed : String → Option Ty} {position : Position} {fields : List (String × Ty)}
    {seen : List String} (each : ∀ field ∈ fields, field.2.typeExpr.resolve typeNamed = .ok field.2)
    (distinct : (fields.map Prod.fst).Nodup) (fresh : ∀ field ∈ fields, field.1 ∉ seen) :
    resolveFields typeNamed position seen (fieldTypeExprs fields) = .ok fields := by
  induction fields generalizing seen with
  | nil => rfl
  | cons field rest ih =>
    rw [List.forall_mem_cons] at each fresh
    rw [List.map_cons, List.nodup_cons] at distinct
    have later : ∀ other ∈ rest, other.1 ∉ field.1 :: seen := by
      intro other listed present
      rcases List.mem_cons.mp present with same | earlier
      · exact distinct.1 (List.mem_map.mpr ⟨other, listed, same⟩)
      · exact fresh.2 other listed earlier
    rw [fieldTypeExprs, resolveFields, if_neg (by simpa using fresh.1), each.1, ih each.2 distinct.2 later]
    rfl

theorem unionOf_reordered {members : List Ty} (several : 2 ≤ members.length) (sorted : Sorted.Increasing members)
    (flat : ∀ member ∈ members, member.isAlternative) (normal : ∀ member ∈ members, member.Normal) :
    unionOf (reordered members) = union members := by
  have parts : ∀ member ∈ reordered members, member.Normal := fun member listed => normal member (mem_reordered.mp listed)
  have known : unknown ∉ reordered members := by
    intro listed
    cases flat unknown (mem_reordered.mp listed)
  have some : reordered members ≠ [] := by
    intro none
    have length := length_reordered sorted.nodup
    rw [none, List.length_nil] at length
    omega
  refine (normal_unionOf parts).eq_of_mem_members (.union several sorted flat normal) fun member => ?_
  rw [mem_members_unionOf parts known some]
  constructor
  · rintro ⟨type, listed, inside⟩
    have listed := mem_reordered.mp listed
    rw [members_of_alternative (flat type listed), List.mem_singleton] at inside
    exact inside ▸ listed
  · intro listed
    refine ⟨member, mem_reordered.mpr listed, ?_⟩
    rw [members_of_alternative (flat member listed)]
    exact List.mem_singleton_self member

theorem typeExpr_resolve {type : Ty} (normal : type.Normal) :
    type.typeExpr.resolve Registry.builtin.typeNamed = .ok type := by
  induction normal with
  | list _ element =>
    rw [typeExpr, resolve, element]
    rfl
  | map _ _ key value =>
    rw [typeExpr, resolve, key, value]
    rfl
  | record sorted _ parts =>
    rw [typeExpr, resolve, resolveFields_annotations parts sorted.nodup fun _ _ => List.not_mem_nil]
    exact congrArg (fun fields => Except.ok (record fields)) (Sorted.entries_of_increasing sorted)
  | union several sorted flat normal parts =>
    rw [typeExpr_union, resolve, resolveAll_annotations fun member listed => parts member (mem_reordered.mp listed)]
    exact congrArg Except.ok (unionOf_reordered several sorted flat normal)
  | _ =>
    rw [typeExpr, resolve, Registry.typeNamed_builtin]
    rfl

theorem reread (type : Ty) (normal : type.Normal) (identified : type.Identified) (file : String) :
    ∃ tokens found next shorter closing, Token.tokenize ("\x7b" ++ type.text ++ "\x7d") file = .ok tokens ∧
      TypeExpr.parse (Cursor.start tokens file).advance = .ok found next shorter ∧
      found.resolve Registry.builtin.typeNamed = .ok type ∧
      next.rest = [closing] ∧ closing.word = TokenKind.closeCurly.word := by
  obtain ⟨tokens, found, next, shorter, closing, given, read, same, there, closes⟩ :=
    type.typeExpr.parse_text (typeExpr_proper normal) (typeExpr_lexical normal identified) file
  rw [typeExpr_text] at given
  refine ⟨tokens, found, next, shorter, closing, given, read, ?_, there, closes⟩
  have outcome : (found.resolve Registry.builtin.typeNamed).toOption = some type := by
    rw [← TypeExpr.resolve_shape, same, TypeExpr.resolve_shape, typeExpr_resolve normal]
    rfl
  cases resolved : found.resolve Registry.builtin.typeNamed with
  | ok other =>
    rw [resolved] at outcome
    exact congrArg Except.ok (Option.some.inj outcome)
  | error diagnostic =>
    rw [resolved] at outcome
    cases outcome

-- The text of a type says which type it is: it can be read again, as an annotation and to
-- its end, and stands for no other type then.
theorem text_faithful (type : Ty) (normal : type.Normal) (identified : type.Identified) (file : String) :
    (∃ tokens found next shorter closing, Token.tokenize ("\x7b" ++ type.text ++ "\x7d") file = .ok tokens ∧
        TypeExpr.parse (Cursor.start tokens file).advance = .ok found next shorter ∧
        found.resolve Registry.builtin.typeNamed = .ok type ∧
        next.rest = [closing] ∧ closing.word = TokenKind.closeCurly.word) ∧
      ∀ other : Ty, other.Normal → other.Identified → other.text = type.text → other = type := by
  refine ⟨reread type normal identified file, fun other normal' identified' same => ?_⟩
  obtain ⟨tokens, found, next, _, _, given, read, resolved, _, _⟩ := reread type normal identified file
  obtain ⟨tokens', found', next', _, _, given', read', resolved', _, _⟩ := reread other normal' identified' file
  rw [same, given] at given'
  cases given'
  rw [read] at read'
  cases read'
  rw [resolved] at resolved'
  exact (Except.ok.inj resolved').symm

-- `list<bool|null>|map<?, []>|[size: int|null]|null`
def nestedType : Ty :=
  .union [.null, .list (.union [.null, .bool]), .map .unknown (.record []), .record [("size", .union [.null, .int])]]

theorem nestedType_normal : nestedType.Normal := by decide

theorem text_faithful_nestedType :
    nestedType.Normal ∧ nestedType.Identified ∧ nestedType.text = "list<bool|null>|map<?, []>|[size: int|null]|null" ∧
      ∃ tokens found next shorter closing,
        Token.tokenize "\x7blist<bool|null>|map<?, []>|[size: int|null]|null\x7d" Token.defaultFile = .ok tokens ∧
        TypeExpr.parse (Cursor.start tokens Token.defaultFile).advance = .ok found next shorter ∧
        found.resolve Registry.builtin.typeNamed = .ok nestedType ∧
        next.rest = [closing] ∧ closing.word = TokenKind.closeCurly.word := by
  have identified : nestedType.Identified := ⟨trivial, ⟨trivial, trivial, trivial⟩, ⟨trivial, trivial⟩,
    ⟨rfl, ⟨trivial, trivial, trivial⟩, trivial⟩, trivial⟩
  exact ⟨nestedType_normal, identified, by decide +kernel,
    (text_faithful nestedType nestedType_normal identified Token.defaultFile).1⟩

end TypedTemplate.Ty
