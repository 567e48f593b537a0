import TypedTemplate.Proofs.Expr.Normal
import TypedTemplate.Proofs.Ty.BlurOperation

namespace TypedTemplate

open Ty (Normal Blurs Alike blurs_self)

def Verdict.Follows (verdict verdict' : Verdict) : Prop :=
  verdict.diagnostics = [] → verdict'.diagnostics = [] ∧ Blurs verdict.type verdict'.type

namespace Ty

def isMap : Ty → Bool
  | map _ _ => true
  | _ => false

def isChoice : Ty → Bool
  | union members => members.all isMap || members.all isRecord
  | _ => false

variable {a b : Ty}

theorem Alike.isRecord_eq (alike : Alike a b) : a.isRecord = b.isRecord := by
  cases alike <;> rfl

theorem Blurs.any_isRecord (blurs : Blurs a b) (known : b ≠ .unknown) : a.members.any isRecord = b.members.any isRecord := by
  rw [Bool.eq_iff_iff, List.any_eq_true, List.any_eq_true]
  constructor
  · intro some
    obtain ⟨member, present, same⟩ := some
    obtain ⟨member', present', alike⟩ := blurs.forth known present
    exact ⟨member', present', alike.isRecord_eq ▸ same⟩
  · intro some
    obtain ⟨member', present', same⟩ := some
    obtain ⟨member, present, alike⟩ := blurs.back known present'
    exact ⟨member, present, alike.isRecord_eq ▸ same⟩

-- Only a choice between containers becomes one container.
theorem keyType_blurs (normal : Normal a) (plain : a.isChoice = false) (blurs : Blurs a b) :
    Blurs (Signature.keyType a) (Signature.keyType b) := by
  by_cases known : b = unknown
  · subst known
    exact .unknown _
  have single {type : Ty} (shape : b.members = [type]) {member : Ty} (present : member ∈ a.members) :
      Alike member type := by
    obtain ⟨member', present', alike⟩ := blurs.forth known present
    rw [shape, List.mem_singleton] at present'
    exact present' ▸ alike
  cases b with
  | map key value =>
    cases normal with
    | map =>
      cases single rfl (List.mem_singleton.mpr rfl) with
      | map parts _ => exact parts
    | list | record | unknown | null | bool | int | float | string => cases single rfl (List.mem_singleton.mpr rfl)
    | @union listed =>
      have all : listed.all isMap = true := by
        rw [List.all_eq_true]
        intro member present
        cases single rfl present
        rfl
      simp [isChoice, all] at plain
  | record fields =>
    cases normal with
    | record => exact blurs_self .string
    | map | list | unknown | null | bool | int | float | string => cases single rfl (List.mem_singleton.mpr rfl)
    | @union listed =>
      have all : listed.all isRecord = true := by
        rw [List.all_eq_true]
        intro member present
        cases single rfl present
        rfl
      simp [isChoice, all] at plain
  | _ => exact .unknown _

end Ty

namespace Expr

theorem judged_follows (node : Node) {rule rule' : Except Fault Ty} (follows : Follows rule rule') :
    (judged node rule).Follows (judged node rule') := by
  intro clean
  cases rule with
  | error fault => cases clean
  | ok type =>
    obtain ⟨type', found, blurs⟩ := follows type rfl
    rw [found]
    exact ⟨rfl, blurs⟩

theorem access_unknown (key : IndexKey) (nullSafe : Bool) : access .unknown key nullSafe = .ok .unknown := by
  cases nullSafe <;> rfl

theorem access_follows {base base' : Ty} {key key' : IndexKey} (normal : base.Normal) (normal' : base'.Normal)
    (blurs : Blurs base base') (known : base' ≠ .unknown) (keys : key.Blurs key') (nullSafe : Bool) :
    Follows (access base key nullSafe) (access base' key' nullSafe) := by
  have null : base.isNull = base'.isNull := by
    rw [Bool.eq_iff_iff, Ty.isNull_iff, Ty.isNull_iff]
    exact blurs.null_iff known normal normal'
  have nullable : base.isNullable = base'.isNullable := by
    rw [Bool.eq_iff_iff]
    exact blurs.isNullable_iff known
  unfold access
  rw [null, nullable]
  split
  · exact follows_ok (blurs_self .null)
  · intro type found
    split at found
    · rename_i inner indexed
      cases found
      obtain ⟨inner', indexed', blurs'⟩ := Ty.index_follows keys normal normal' blurs inner indexed
      rw [indexed']
      refine ⟨_, rfl, ?_⟩
      split
      · exact Ty.nullable_blurs (Ty.normal_index normal indexed) (Ty.normal_index normal' indexed') blurs'
      · exact blurs'
    · cases found

theorem access_field_follows {base base' : Ty} (normal : base.Normal) (normal' : base'.Normal) (blurs : Blurs base base')
    (name : String) (nullSafe : Bool) :
    Follows (access base (.field name) nullSafe) (access base' (.field name) nullSafe) := by
  by_cases known : base' = .unknown
  · rw [known, access_unknown]
    exact follows_unknown _
  · exact access_follows normal normal' blurs known (.field name) nullSafe

theorem access_index_follows {base base' keyType keyType' : Ty} (normal : base.Normal) (normal' : base'.Normal)
    (blurs : Blurs base base') (first : keyType.Normal) (first' : keyType'.Normal) (blurs' : Blurs keyType keyType')
    (key : Expr) (nullSafe : Bool) :
    Follows (access base (indexKey base key keyType) nullSafe) (access base' (indexKey base' key keyType') nullSafe) := by
  by_cases known : base' = .unknown
  · rw [known, access_unknown]
    exact follows_unknown _
  · apply access_follows normal normal' blurs known
    unfold indexKey
    rw [blurs.any_isRecord known]
    split
    · split
      · exact .field _
      · exact .value first first' blurs'
    · exact .value first first' blurs'

theorem unaryType_follows (modern : Bool) (operator : UnaryOperator) {operand operand' : Ty} (normal : operand.Normal)
    (normal' : operand'.Normal) (blurs : Blurs operand operand') :
    Follows (unaryType modern operator operand) (unaryType modern operator operand') := by
  cases operator with
  | not =>
    apply follows_ok
    split
    · exact blurs_self .bool
    · exact blurs
  | negate => exact Ty.negate_follows normal normal' blurs

theorem binaryType_follows (modern : Bool) (operator : BinaryOperator) {left left' right right' : Ty}
    (first : left.Normal) (first' : left'.Normal) (second : right.Normal) (second' : right'.Normal)
    (blurs : Blurs left left') (blurs' : Blurs right right') :
    Follows (binaryType modern operator left right) (binaryType modern operator left' right') := by
  cases operator with
  | plus => exact Ty.plus_follows first first' second second' blurs blurs'
  | minus | times | divide | modulo => exact Ty.arithmetic_follows first first' second second' blurs blurs' _
  | less | lessEquals | greater | greaterEquals | equals | notEquals => exact follows_ok (blurs_self .bool)
  | and | or =>
    apply follows_ok
    split
    · exact blurs_self .bool
    · exact Ty.join_blurs first first' second second' blurs blurs'
  | orElse =>
    exact follows_ok (Ty.join_blurs (Ty.normal_removeNull first) (Ty.normal_removeNull first') second second'
      (Ty.removeNull_blurs first first' blurs) blurs')

theorem literalType_follows (keys : List Expr) {keyTypes keyTypes' valueTypes valueTypes' : List Ty}
    (first : ∀ type ∈ keyTypes, type.Normal) (first' : ∀ type ∈ keyTypes', type.Normal)
    (second : ∀ type ∈ valueTypes, type.Normal) (second' : ∀ type ∈ valueTypes', type.Normal)
    (blurs : List.Forall₂ Blurs keyTypes keyTypes') (blurs' : List.Forall₂ Blurs valueTypes valueTypes') :
    (literalType keys keyTypes valueTypes).Follows (literalType keys keyTypes' valueTypes') := by
  unfold literalType
  split
  · split
    · intro clean
      cases clean
    · intro _
      exact ⟨rfl, (Ty.Alike.record (Ty.alikeFields_entries (Ty.alikeFields_zip _ blurs'))).blurs⟩
  · intro _
    exact ⟨rfl, (Ty.Alike.map (Ty.unionOf_blurs_each first first' blurs) (Ty.unionOf_blurs_each second second' blurs')).blurs⟩

theorem mismatches_follows (args : List Expr) {types types' params : List Ty} (wanted : ∀ param ∈ params, param.Normal)
    (normal : ∀ type ∈ types, type.Normal) (normal' : ∀ type ∈ types', type.Normal)
    (blurs : List.Forall₂ Blurs types types') (clean : mismatches args types params = []) :
    mismatches args types' params = [] := by
  induction args generalizing types types' params with
  | nil => rfl
  | cons arg args ih =>
    cases blurs with
    | nil => rfl
    | @cons type type' rest rest' head tail =>
      cases params with
      | nil => rfl
      | cons param params =>
        rw [List.forall_mem_cons] at wanted normal normal'
        rw [mismatches] at clean ⊢
        split at clean
        · rename_i fits
          rw [if_pos (Ty.assignable_blurs normal.1 normal'.1 wanted.1 wanted.1 head (blurs_self wanted.1) fits)]
          exact ih wanted.2 normal.2 normal'.2 tail clean
        · cases clean

theorem getD_blurs {types types' : List Ty} (blurs : List.Forall₂ Blurs types types') (index : Nat) :
    Blurs (types.getD index .unknown) (types'.getD index .unknown) := by
  induction blurs generalizing index with
  | nil => exact .unknown _
  | cons head tail ih =>
    cases index with
    | zero => exact head
    | succ index => exact ih index

theorem resultType_blurs {name : String} {signature : Signature} (regular : signature.Regular name) {types types' : List Ty}
    (normal : ∀ type ∈ types, type.Normal) (normal' : ∀ type ∈ types', type.Normal)
    (blurs : List.Forall₂ Blurs types types') (plain : name = "keys" → (types.getD 0 .unknown).isChoice = false) :
    Blurs (signature.resultType types) (signature.resultType types') := by
  have result := regular.result
  unfold Signature.resultType
  cases shape : signature.result with
  | fixed type =>
    rw [shape] at result
    exact blurs_self result
  | argument index => exact getD_blurs blurs index
  | keysOf index =>
    rw [shape] at result
    obtain ⟨named, first⟩ := result
    subst first
    exact (Ty.Alike.list (Ty.keyType_blurs (getD_normal normal 0) (plain named) (getD_blurs blurs 0))).blurs
  | numeric left right =>
    dsimp only
    rcases Ty.arithmetic_blurs (getD_normal normal left) (getD_normal normal' left) (getD_normal normal right)
      (getD_normal normal' right) (getD_blurs blurs left) (getD_blurs blurs right) .plus with unknown | same
    · rw [unknown]
      exact .unknown _
    · cases found : Ty.arithmetic .plus (types.getD left .unknown) (types.getD right .unknown) with
      | ok type =>
        rw [(same type).mpr found]
        exact blurs_self (Ty.Kept.normals.arithmetic (getD_normal normal left) (getD_normal normal right) found)
      | error fault =>
        cases found' : Ty.arithmetic .plus (types'.getD left .unknown) (types'.getD right .unknown) with
        | ok type => cases found.symm.trans ((same type).mp found')
        | error fault => exact .unknown _

theorem callType_follows {context : Context} (regular : context.Regular) (node : Node) (name : String) (args : List Expr)
    {types types' : List Ty} (normal : ∀ type ∈ types, type.Normal) (normal' : ∀ type ∈ types', type.Normal)
    (blurs : List.Forall₂ Blurs types types') (plain : name = "keys" → (types.getD 0 .unknown).isChoice = false) :
    (callType context node name args types).Follows (callType context node name args types') := by
  unfold callType
  split
  · intro clean
    cases clean
  · rename_i signature known
    split
    · intro clean
      cases clean
    split
    · intro clean
      cases clean
    intro clean
    have regular := regular.signature known
    cases found : mismatches args types signature.params with
    | nil =>
      rw [mismatches_follows args regular.params normal normal' blurs found]
      exact ⟨rfl, resultType_blurs regular normal normal' blurs plain⟩
    | cons diagnostic rest =>
      rw [found] at clean
      cases clean

end Expr
end TypedTemplate
