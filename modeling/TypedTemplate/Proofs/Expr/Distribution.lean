import TypedTemplate.Proofs.Expr.Cause

namespace TypedTemplate

namespace Ty

variable {members : List Ty} {result : Ty} {name : String}

theorem indexMembers_map {key : IndexKey} {typeOf : Ty → Ty} (nonNull : null ∉ members)
    (each : ∀ member ∈ members, index key member = .ok (typeOf member)) :
    indexMembers key members = .ok (members.map typeOf) := by
  induction members with
  | nil => rfl
  | cons member rest ih =>
    rw [List.mem_cons, not_or] at nonNull
    rw [List.forall_mem_cons] at each
    rw [indexMembers_cons (Ne.symm nonNull.1), each.1, ih nonNull.2 each.2]
    rfl

-- A name in brackets is taken as a field or as a string with the same outcome, but for the
-- length of a list and for a record.
theorem index_field_iff {type : Ty} (noRecord : type.isRecord = false) (flat : type.isAlternative)
    (unmeasured : ∀ element, type = .list element → name ≠ "length") :
    index (.field name) type = .ok result ↔ index (.value .string) type = .ok result := by
  cases type with
  | list element =>
    have other : name ≠ "length" := unmeasured element rfl
    have unfit : assignable .string .int = false := rfl
    simp only [index, listIndex, unfit]
    split <;> simp_all
  | map key value =>
    simp only [index, mapIndex]
    split <;> simp
  | record => cases noRecord
  | unknown | union => cases flat
  | null | bool | int | float | string => simp [index]

theorem present_of_alternative {type : Ty} (flat : type.isAlternative) (other : type ≠ null) : type.isNullable = false := by
  refine Bool.eq_false_iff.mpr fun nullable => other ?_
  rw [isNullable_iff, members_of_alternative flat, List.mem_singleton] at nullable
  exact nullable.symm

end Ty

namespace Expr

variable {context : Context} {scope : Scope} {node : Node} {base key : Expr} {nullSafe : Bool}

def Spared (context : Context) (scope : Scope) (expr : Expr) : Prop :=
  ∀ diagnostic ∈ (expr.infer context scope).log.diagnostics, diagnostic.node ≠ some expr.id

instance (expr : Expr) : Decidable (expr.Spared context scope) :=
  inferInstanceAs (Decidable (∀ diagnostic ∈ (expr.infer context scope).log.diagnostics, diagnostic.node ≠ some expr.id))

theorem access_present {type : Ty} (present : type.isNullable = false) (asked : IndexKey) :
    access type asked nullSafe = Ty.index asked type := by
  have other : type.isNull = false := by
    cases type with
    | null => cases present
    | _ => rfl
  rw [access, other, present, Bool.and_false, if_neg Bool.false_ne_true]
  cases Ty.index asked type <;> rfl

theorem index_ok_iff (distinct : (index node base key nullSafe).ids.Nodup)
    (present : (base.infer context scope).type.isNullable = false) {result : Ty} :
    Ty.index (indexKey (base.infer context scope).type key (key.infer context scope).type)
        (base.infer context scope).type = .ok result ↔
      (index node base key nullSafe).Spared context scope ∧
        ((index node base key nullSafe).infer context scope).type = result := by
  rw [Spared, infer, access_present present]
  cases Ty.index (indexKey (base.infer context scope).type key (key.infer context scope).type)
    (base.infer context scope).type with
  | error fault =>
    refine iff_of_false nofun fun spared => ?_
    exact spared.1 _ (List.mem_append_right _ (List.mem_singleton_self _)) rfl
  | ok type =>
    have silent : ∀ diagnostic ∈ ((base.infer context scope).log ++ (key.infer context scope).log).diagnostics,
        diagnostic.node ≠ some node.id := by
      intro diagnostic listed about
      have parts := (infer_causes context base scope).append (infer_causes context key scope)
      obtain ⟨term, inside, fault, rfl, _⟩ := parts diagnostic listed
      rw [ids, subterms, List.map_append, List.nodup_append] at distinct
      exact distinct.2.2 _ (List.mem_map_of_mem inside) _ (List.mem_singleton_self _) (Option.some.inj about)
    constructor
    · intro same
      cases same
      exact ⟨fun diagnostic listed => silent diagnostic (by simpa [settle, judged, Log.diagnostics_append] using listed), rfl⟩
    · intro spared
      exact congrArg Except.ok spared.2

def bracketed (node varNode : Node) (key : Expr) (nullSafe : Bool) (name : String) : Expr :=
  index node (var varNode name) key nullSafe

theorem ids_bracketed (node varNode : Node) (key : Expr) (nullSafe : Bool) (name : String) :
    (bracketed node varNode key nullSafe name).ids = varNode.id :: (key.ids ++ [node.id]) := by
  simp [bracketed, ids, subterms, id, Expr.node]

theorem bracketed_ok_iff {varNode : Node} {name : String} {type : Ty} (typed : varType scope name = .ok type)
    (present : type.isNullable = false) (distinct : (bracketed node varNode key nullSafe name).ids.Nodup) {result : Ty} :
    Ty.index (indexKey type key (key.infer context scope).type) type = .ok result ↔
      (bracketed node varNode key nullSafe name).Spared context scope ∧
        ((bracketed node varNode key nullSafe name).infer context scope).type = result := by
  have same : ((var varNode name).infer context scope).type = type := by
    rw [infer, typed]
    rfl
  have whole := @index_ok_iff context scope node (var varNode name) key nullSafe distinct (same ▸ present) result
  rwa [same] at whole

-- The key that a union is asked with serves each of its members as its own key would.
theorem index_indexKey_iff {members : List Ty} {member keyType result : Ty} (normal : (Ty.union members).Normal)
    (listed : member ∈ members) (literal : ∀ name, key.stringLiteral? = some name → keyType = .string)
    (unmeasured : key.stringLiteral? = some "length" → members.any Ty.isRecord →
      ∀ element, .list element ∉ members) :
    Ty.index (indexKey (.union members) key keyType) member = .ok result ↔
      Ty.index (indexKey member key keyType) member = .ok result := by
  have alternative : member.isAlternative := normal.members_flat nofun listed
  have single := Ty.members_of_alternative alternative
  unfold indexKey
  split
  · rename_i name named
    rw [single, List.any_cons, List.any_nil, Bool.or_false, Ty.members]
    by_cases record : member.isRecord
    · rw [if_pos record, if_pos (List.any_eq_true.mpr ⟨member, listed, record⟩)]
    · rw [if_neg record, literal name named]
      split
      · rename_i some
        refine Ty.index_field_iff (Bool.eq_false_iff.mpr record) alternative ?_
        rintro element rfl rfl
        exact unmeasured named some element listed
      · rfl
  · rfl

-- Brackets behind a variable of a union type are spared if they are behind a variable of each
-- member, and then have one of the types that they have there.
theorem bracketed_distributes (context : Context) (node varNode : Node) (key : Expr) (nullSafe : Bool) {members : List Ty}
    (normal : (Ty.union members).Normal) (nonNull : .null ∉ members) {scope : Scope} {name : String}
    (typed : varType scope name = .ok (.union members)) {scopes : Ty → Scope} {names : Ty → String}
    (each : ∀ member ∈ members, varType (scopes member) (names member) = .ok member ∧
      (key.infer context (scopes member)).type = (key.infer context scope).type)
    (unmeasured : key.stringLiteral? = some "length" → members.any Ty.isRecord → ∀ element, .list element ∉ members)
    (distinct : (bracketed node varNode key nullSafe name).ids.Nodup) :
    ((bracketed node varNode key nullSafe name).Spared context scope ↔
      ∀ member ∈ members, (bracketed node varNode key nullSafe (names member)).Spared context (scopes member)) ∧
    ((bracketed node varNode key nullSafe name).Spared context scope →
      ((bracketed node varNode key nullSafe name).infer context scope).type =
        .unionOf (members.map fun member =>
          ((bracketed node varNode key nullSafe (names member)).infer context (scopes member)).type)) := by
  have present : (Ty.union members).isNullable = false :=
    Bool.eq_false_iff.mpr fun nullable => nonNull (Ty.isNullable_iff.mp nullable)
  have literal (text : String) (named : key.stringLiteral? = some text) : (key.infer context scope).type = .string :=
    type_of_literal context scope named
  have whole {result : Ty} := @bracketed_ok_iff context scope node key nullSafe varNode name _ typed present distinct result
  have part {member result : Ty} (listed : member ∈ members) :
      Ty.index (indexKey (.union members) key (key.infer context scope).type) member = .ok result ↔
        (bracketed node varNode key nullSafe (names member)).Spared context (scopes member) ∧
          ((bracketed node varNode key nullSafe (names member)).infer context (scopes member)).type = result := by
    obtain ⟨typed', sameKey⟩ := each member listed
    have present' : member.isNullable = false :=
      Ty.present_of_alternative (normal.members_flat nofun listed) fun same => nonNull (same ▸ listed)
    rw [ids_bracketed, ← ids_bracketed node varNode key nullSafe (names member)] at distinct
    rw [index_indexKey_iff normal listed literal unmeasured, ← sameKey]
    exact bracketed_ok_iff typed' present' distinct
  have joined (spared : ∀ member ∈ members,
      (bracketed node varNode key nullSafe (names member)).Spared context (scopes member)) := by
    have found := Ty.indexMembers_map nonNull fun member listed => (part listed).mpr ⟨spared member listed, rfl⟩
    exact whole.mp (Ty.index_union_ok_iff.mpr ⟨_, found, rfl⟩)
  have split (spared : (bracketed node varNode key nullSafe name).Spared context scope) : ∀ member ∈ members,
      (bracketed node varNode key nullSafe (names member)).Spared context (scopes member) := by
    intro member listed
    obtain ⟨results, found, _⟩ := Ty.index_union_ok_iff.mp (whole.mpr ⟨spared, rfl⟩)
    obtain ⟨type, own⟩ := Ty.indexMembers_each found listed fun same => nonNull (same ▸ listed)
    exact ((part listed).mp own).1
  exact ⟨⟨split, fun spared => (joined spared).1⟩, fun spared => (joined (split spared)).2⟩

def measured : Ty := .record [("length", .int)]

def measuredScope : Scope :=
  ⟨⟨[⟨"a", .requiredParam, .union [.list .int, measured]⟩, ⟨"b", .requiredParam, .union [.map .string .float, measured]⟩,
    ⟨"list", .requiredParam, .list .int⟩, ⟨"map", .requiredParam, .map .string .float⟩,
    ⟨"record", .requiredParam, measured⟩], []⟩, []⟩

def partName : Ty → String
  | .list _ => "list"
  | .map _ _ => "map"
  | _ => "record"

def lengthOf : String → Expr :=
  bracketed ⟨2, ⟨⟨0, "f"⟩, ⟨9, "f"⟩⟩⟩ ⟨0, ⟨⟨0, "f"⟩, ⟨5, "f"⟩⟩⟩ (.string ⟨1, ⟨⟨6, "f"⟩, ⟨8, "f"⟩⟩⟩ "length") false

theorem normal_withMeasured {type : Ty} (normal : type.Normal) (alternative : type.isAlternative)
    (before : compare type measured = .lt) : (Ty.union [type, measured]).Normal := by
  have last : measured.Normal := .record (List.pairwise_singleton _ _) (List.forall_mem_singleton.mpr .int)
  refine .union (Nat.le_refl 2) (List.pairwise_pair.mpr before) ?_ ?_
  · exact List.forall_mem_cons.mpr ⟨alternative, List.forall_mem_singleton.mpr rfl⟩
  · exact List.forall_mem_cons.mpr ⟨normal, List.forall_mem_singleton.mpr last⟩

theorem bracketed_distributes_measured : (lengthOf "b").Spared (Context.builtin .v2_4) measuredScope ∧
    ((lengthOf "b").infer (Context.builtin .v2_4) measuredScope).type = .unionOf ([.map .string .float, measured].map
      fun member => ((lengthOf (partName member)).infer (Context.builtin .v2_4) measuredScope).type) := by
  have normal : (Ty.union [.map .string .float, measured]).Normal :=
    normal_withMeasured (.map .string .float) rfl (by decide)
  have each : ∀ member ∈ [.map .string .float, measured], varType measuredScope (partName member) = .ok member ∧
      ((string ⟨1, ⟨⟨6, "f"⟩, ⟨8, "f"⟩⟩⟩ "length").infer (Context.builtin .v2_4) measuredScope).type =
        ((string ⟨1, ⟨⟨6, "f"⟩, ⟨8, "f"⟩⟩⟩ "length").infer (Context.builtin .v2_4) measuredScope).type :=
    List.forall_mem_cons.mpr ⟨⟨rfl, rfl⟩, List.forall_mem_singleton.mpr ⟨rfl, rfl⟩⟩
  have spared : (lengthOf "b").Spared (Context.builtin .v2_4) measuredScope := by decide +kernel
  exact ⟨spared, (bracketed_distributes (Context.builtin .v2_4) _ _ _ false normal (by simp [measured]) rfl each
    (by simp [measured]) (by decide)).2 spared⟩

-- In the union with a record the key is the name of a field, and a list has a length; for the list
-- alone it is a string, and refused.
theorem length_not_distributed :
    (Ty.union [.list .int, measured]).Normal ∧ .null ∉ [.list .int, measured] ∧
      varType measuredScope "a" = .ok (.union [.list .int, measured]) ∧
      (lengthOf "a").Spared (Context.builtin .v2_4) measuredScope ∧
      varType measuredScope "list" = .ok (.list .int) ∧
      ¬(lengthOf "list").Spared (Context.builtin .v2_4) measuredScope :=
  ⟨normal_withMeasured (.list .int) rfl (by decide), by simp [measured], rfl, by decide +kernel, rfl, by decide +kernel⟩

end Expr
end TypedTemplate
