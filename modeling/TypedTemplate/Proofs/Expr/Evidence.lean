import TypedTemplate.Proofs.Expr.Formula
import TypedTemplate.Proofs.Ty.Operation

namespace TypedTemplate

namespace Expr

def fieldType (scope : Scope) (key? : Option RefKey) (base : Ty) (name : String) (nullSafe : Bool) : Except Fault Ty :=
  match key?.bind (narrowedPath scope) with
  | some narrowed => .ok narrowed
  | none => access base (.field name) nullSafe

theorem infer_field (context : Context) (scope : Scope) (node : Node) (base : Expr) (name : String) (nullSafe : Bool) :
    (field node base name nullSafe).infer context scope =
      settle node (base.infer context scope).log (judged node
        (fieldType scope (field node base name nullSafe).refKey? (base.infer context scope).type name nullSafe)) := by
  rw [infer]
  rfl

theorem refKey?_field {node : Node} {base : Expr} {name : String} {nullSafe : Bool} {key : RefKey} :
    (field node base name nullSafe).refKey? = some key ↔
      nullSafe = false ∧ ∃ outer, base.refKey? = some outer ∧ key = outer.field name := by
  cases nullSafe with
  | true => simp [refKey?]
  | false =>
    simp only [refKey?, Option.map_eq_some_iff, true_and]
    exact exists_congr fun outer => and_congr_right fun _ => eq_comm

theorem narrowedPath_field (scope : Scope) (key : RefKey) (name : String) :
    narrowedPath scope (key.field name) = scope.typeOf (key.field name) := by
  have long : (key.field name).isBare = false := by simp [RefKey.isBare, RefKey.field]
  rw [narrowedPath, long, if_neg (by simp)]

-- A reference has the type its scope gives it, unless its variable is not declared or
-- stands for injected data.
theorem type_of_reference (context : Context) {expr : Expr} {key : RefKey} {scope : Scope} {type : Ty}
    (denotes : expr.refKey? = some key) (found : scope.typeOf key = some type) :
    (expr.infer context scope).type = type ∨ (expr.infer context scope).type = .unknown := by
  cases expr with
  | var node name =>
    cases denotes
    rw [infer]
    unfold varType
    split
    · exact .inr rfl
    · split
      · exact .inr rfl
      · rw [found]; exact .inl rfl
  | field node base name nullSafe =>
    obtain ⟨rfl, outer, _, rfl⟩ := refKey?_field.mp denotes
    rw [infer_field, fieldType, denotes, Option.bind_some, narrowedPath_field, found]
    exact .inl rfl
  | _ => cases denotes

end Expr

structure Ty.Steady (type : Ty) : Prop where
  normal : type.Normal
  settled : type.isNullable = false ∨ type = .null

theorem Ty.Steady.eq_null {type : Ty} (steady : type.Steady) (nullable : type.isNullable) : type = .null := by
  rcases steady.settled with present | same
  · rw [present] at nullable; cases nullable
  · exact same

structure Ty.Closed (among : Ty → Prop) : Prop where
  removeNull : ∀ {type}, among type → type.isNullable → among type.removeNull
  null : ∀ {type}, among type → type.isNullable → among .null
  join : ∀ {a b}, among a → among b → among (a.join b)
  meet : ∀ {a b}, among a → among b → among (a.meet b)

namespace Ty.Closed

theorem steady {type : Ty} (steady : type.Steady) : Ty.Closed (· = type) where
  removeNull := by rintro _ rfl nullable; rw [steady.eq_null nullable]; rfl
  null := by rintro _ rfl nullable; exact (steady.eq_null nullable).symm
  join := by rintro _ _ rfl rfl; exact join_self steady.normal
  meet := by rintro _ _ rfl rfl; exact meet_self steady.normal

theorem shares {type : Ty} (normal : type.Normal) (nullable : type.isNullable) :
    Ty.Closed fun found => ∃ share : Share, found = share.of type where
  removeNull := by
    rintro _ ⟨share, rfl⟩ _
    by_cases other : type = .null
    · subst other; exact ⟨.whole, by simp only [Share.of_null]; rfl⟩
    cases share with
    | whole => exact ⟨.present, rfl⟩
    | present =>
      exact ⟨.present, removeNull_of_not_nullable (normal_removeNull normal) (removeNull_not_nullable normal other)⟩
    | absent => exact ⟨.absent, rfl⟩
  null := fun _ _ => ⟨.absent, rfl⟩
  join := by rintro _ _ ⟨a, rfl⟩ ⟨b, rfl⟩; exact join_shares normal nullable a b
  meet := by rintro _ _ ⟨a, rfl⟩ ⟨b, rfl⟩; exact meet_shares normal nullable a b

theorem of_imp {among : Ty → Prop} (closed : Ty.Closed among) (case : Prop) : Ty.Closed fun type => case → among type where
  removeNull holds nullable given := closed.removeNull (holds given) nullable
  null holds nullable given := closed.null (holds given) nullable
  join first second given := closed.join (first given) (second given)
  meet first second given := closed.meet (first given) (second given)

end Ty.Closed

def Constraints.Within (constraints : Constraints) (among : RefKey → Ty → Prop) : Prop :=
  ∀ key type, constraints.lookup key = some type → among key type

structure Refinements.Within (known : Refinements) (among : RefKey → Ty → Prop) : Prop where
  whenTrue : known.whenTrue.Within among
  whenFalse : known.whenFalse.Within among

section within

variable {among : RefKey → Ty → Prop} {a b : Constraints}

theorem Constraints.Within.entries (sorted : Sorted.IncreasingKeys a) (within : a.Within among) :
    ∀ entry ∈ a, among entry.1 entry.2 :=
  fun entry present => within entry.1 entry.2 (sorted.lookup_of_mem present)

theorem Constraints.Within.mergeAll (closed : ∀ key, Ty.Closed (among key)) (sorted : Sorted.IncreasingKeys b)
    (first : a.Within among) (second : b.Within among) : (a.mergeAll b).Within among := by
  intro key type found
  rw [lookup_mergeAll sorted] at found
  split at found
  · exact first key type found
  · rename_i other told
    split at found
    · rename_i known told'
      cases found
      exact (closed key).meet (first key known told') (second key other told)
    · cases found
      exact second key _ told

theorem Constraints.Within.mergeCommon (closed : ∀ key, Ty.Closed (among key))
    (first : a.Within among) (second : b.Within among) : (a.mergeCommon b).Within among := by
  intro key type found
  rw [lookup_mergeCommon] at found
  split at found
  · rename_i known other told told'
    cases found
    exact (closed key).join (first key known told) (second key other told')
  · cases found

theorem Constraints.Within.single {key : RefKey} {type : Ty} (holds : among key type) :
    Constraints.Within [(key, type)] among := by
  intro asked told found
  by_cases same : asked = key
  · subst same
    rw [List.lookup_cons_self] at found
    cases found
    exact holds
  · rw [List.lookup_cons, beq_eq_false_iff_ne.mpr same] at found
    cases found

theorem Refinements.Within.swap {known : Refinements} (within : known.Within among) : known.swap.Within among :=
  ⟨within.whenFalse, within.whenTrue⟩

theorem Refinements.Within.none : Refinements.none.Within among := ⟨nofun, nofun⟩

end within

theorem Ty.Kept.closed {among : Ty → Prop} (kept : Ty.Kept among) : Ty.Closed among where
  removeNull holds _ := kept.removeNull holds
  null _ _ := kept.null
  join := kept.join
  meet := kept.meet

namespace Expr

theorem refineNonNull_within {among : RefKey → Ty → Prop} (closed : ∀ key, Ty.Closed (among key)) {typeOf : Nat → Option Ty}
    {expr : Expr} (found : ∀ key type, expr.refKey? = some key → typeOf expr.id = some type → type.isNullable → among key type) :
    (refineNonNull typeOf expr).Within among := by
  unfold refineNonNull
  split
  · rename_i key type denotes typed
    split
    · rename_i nullable
      have holds := found key type denotes typed nullable
      exact ⟨.single ((closed key).removeNull holds nullable), .single ((closed key).null holds nullable)⟩
    · exact .none
  · exact .none

theorem refine_within_tests {among : RefKey → Ty → Prop} (closed : ∀ key, Ty.Closed (among key))
    (typeOf : Nat → Option Ty) (modern : Bool) (condition : Expr)
    (tests : ∀ part ∈ condition.subterms, (refineNonNull typeOf part).Within among) :
    (condition.refine typeOf modern).Within among := by
  refine (refine_rec (motive := fun known => known.Sorted ∧ known.Within among) ⟨.none, .none⟩ ?_ ?_ ?_ modern condition
    fun part inside => ⟨refineNonNull_sorted typeOf part, tests part inside⟩).2
  · exact fun known => ⟨known.1.swap, known.2.swap⟩
  · intro a b first second
    exact ⟨first.1.both, first.2.whenTrue.mergeAll closed second.1.whenTrue second.2.whenTrue,
      first.2.whenFalse.mergeCommon closed second.2.whenFalse⟩
  · intro a b first second
    exact ⟨first.1.either, first.2.whenTrue.mergeCommon closed second.2.whenTrue,
      first.2.whenFalse.mergeAll closed second.1.whenFalse second.2.whenFalse⟩

theorem refine_within {among : Ty → Prop} (closed : Ty.Closed among) (typeOf : Nat → Option Ty)
    (answers : ∀ id type, typeOf id = some type → among type) (modern : Bool) (condition : Expr) :
    (condition.refine typeOf modern).Within fun _ => among :=
  refine_within_tests (fun _ => closed) typeOf modern condition fun _ _ =>
    refineNonNull_within (fun _ => closed) fun _ type _ typed _ => answers _ type typed

end Expr

namespace Formula

theorem learn_within {key : RefKey} {among : RefKey → Ty → Prop} {type : Ty} (closed : Ty.Closed (among key))
    (found : type.isNullable → among key type) : (learn key type).Within among := by
  unfold learn
  split
  · rename_i nullable
    exact ⟨.single (closed.removeNull (found nullable) nullable), .single (closed.null (found nullable) nullable)⟩
  · exact .none

end Formula

-- Types allowed for each reference, and scopes that are sound. Those give a reference
-- nothing else to learn from, and stay sound when told what is allowed.
structure Invariant (context : Context) (among : RefKey → Ty → Prop) (sound : Scope → Prop) : Prop where
  closed : ∀ key, Ty.Closed (among key)
  under : ∀ {scope : Scope} {constraints : Constraints}, sound scope → Sorted.IncreasingKeys constraints → constraints.Within among →
    sound (scope.under constraints)
  read : ∀ {scope : Scope} {reference : Expr} {key : RefKey}, sound scope → reference.refKey? = some key →
    (reference.infer context scope).type.isNullable → among key (reference.infer context scope).type

namespace Invariant

variable {context : Context} {among : RefKey → Ty → Prop} {sound : Scope → Prop} {scope : Scope}
  (invariant : Invariant context among sound)
include invariant

theorem evidence_within (formula : Formula) (start : sound scope) : (formula.evidence context scope).Within among := by
  induction formula generalizing scope with
  | test nonNull reference key denotes =>
    have told := Formula.learn_within (invariant.closed key) (invariant.read start denotes)
    cases nonNull with
    | true => exact told
    | false => exact told.swap
  | other condition => exact .none
  | negation operand ih => exact (ih start).swap
  | both left right first second =>
    have sorted := left.evidence_sorted context scope
    have told := first start
    have told' := second (invariant.under start sorted.whenTrue told.whenTrue)
    have sorted' := right.evidence_sorted context (scope.under (left.evidence context scope).whenTrue)
    exact ⟨told.whenTrue.mergeAll invariant.closed sorted'.whenTrue told'.whenTrue,
      told.whenFalse.mergeCommon invariant.closed told'.whenFalse⟩
  | either left right first second =>
    have sorted := left.evidence_sorted context scope
    have told := first start
    have told' := second (invariant.under start sorted.whenFalse told.whenFalse)
    have sorted' := right.evidence_sorted context (scope.under (left.evidence context scope).whenFalse)
    exact ⟨told.whenTrue.mergeCommon invariant.closed told'.whenTrue,
      told.whenFalse.mergeAll invariant.closed sorted'.whenFalse told'.whenFalse⟩

section condition

variable {condition : Expr} (distinct : condition.ids.Nodup) (start : sound scope)
include distinct start

theorem refine_within :
    (condition.refine (condition.infer context scope).log.typeOf context.version.isModern).Within among := by
  rw [Expr.refine_infer context condition scope distinct]
  exact invariant.evidence_within _ start

theorem under_whenTrue : sound (scope.under
    (condition.refine (condition.infer context scope).log.typeOf context.version.isModern).whenTrue) := by
  have sorted := Expr.refine_sorted (condition.infer context scope).log.typeOf context.version.isModern condition
  exact invariant.under start sorted.whenTrue (invariant.refine_within distinct start).whenTrue

theorem under_whenFalse : sound (scope.under
    (condition.refine (condition.infer context scope).log.typeOf context.version.isModern).whenFalse) := by
  have sorted := Expr.refine_sorted (condition.infer context scope).log.typeOf context.version.isModern condition
  exact invariant.under start sorted.whenFalse (invariant.refine_within distinct start).whenFalse

theorem rightScope_sound (operator : BinaryOperator) :
    sound (Expr.rightScope context.version.isModern scope operator condition (condition.infer context scope)) := by
  unfold Expr.rightScope
  split
  · exact invariant.under_whenTrue distinct start
  · exact invariant.under_whenFalse distinct start
  · split
    · rename_i key denotes
      split
      · rename_i nullable
        have told := (invariant.closed key).null (invariant.read start denotes nullable) nullable
        exact invariant.under start (List.pairwise_singleton _ _) (.single told)
      · exact start
    · exact start
  · exact start

end condition
end Invariant

def Scope.Holds (scope : Scope) (key : RefKey) (among : Ty → Prop) : Prop :=
  ∃ type, scope.typeOf key = some type ∧ among type

-- If the type of one reference is in a closed collection, whatever a condition tells of
-- it is, also on the right side of a connective, where the left side has told something.
theorem Invariant.holds {key : RefKey} {among : Ty → Prop} (closed : Ty.Closed among) (context : Context) :
    Invariant context (fun asked type => asked = key → among type) (·.Holds key among) where
  closed asked := closed.of_imp (asked = key)
  under := by
    intro scope constraints holds sorted within
    unfold Scope.Holds
    rw [Scope.typeOf_under sorted]
    cases told : constraints.lookup key with
    | some type => exact ⟨type, rfl, within key type told rfl⟩
    | none => exact holds
  read := by
    rintro scope reference _ ⟨type, found, inside⟩ denotes nullable rfl
    rcases Expr.type_of_reference context denotes found with equal | equal
    · rw [equal]; exact inside
    · rw [equal] at nullable; cases nullable

def Constraints.Extends (later earlier : Constraints) : Prop :=
  ∀ key type known, later.lookup key = some type → earlier.lookup key = some known → known.meet type = type

-- On the right of a connective a reference the left side told something about has the
-- type told, so that whatever is found out there is a share of it.
theorem Formula.evidence_extends {context : Context} {scope : Scope} (formula : Formula) {constraints : Constraints}
    (sorted : Sorted.IncreasingKeys constraints) (normal : constraints.Within fun _ => Ty.Normal) :
    (formula.evidence context (scope.under constraints)).whenTrue.Extends constraints ∧
      (formula.evidence context (scope.under constraints)).whenFalse.Extends constraints := by
  have narrower (key : RefKey) (known : Ty) (told : constraints.lookup key = some known) :
      (formula.evidence context (scope.under constraints)).Within fun asked type => asked = key → known.meet type = type := by
    have normal := normal key known told
    have found : (scope.under constraints).typeOf key = some known := by
      rw [Scope.typeOf_under sorted, told]; rfl
    by_cases nullable : known.isNullable
    · have shares := (Invariant.holds (.shares normal nullable) context).evidence_within formula ⟨known, found, .whole, rfl⟩
      have meet {type : Ty} : (∃ share : Ty.Share, type = share.of known) → known.meet type = type := by
        intro some
        obtain ⟨share, same⟩ := some
        rw [same]
        exact Ty.meet_share normal nullable share
      exact ⟨fun asked type present same => meet (shares.whenTrue asked type present same),
        fun asked type present same => meet (shares.whenFalse asked type present same)⟩
    · have steady : known.Steady := ⟨normal, .inl (by simpa using nullable)⟩
      have same := (Invariant.holds (.steady steady) context).evidence_within formula ⟨known, found, rfl⟩
      have meet {type : Ty} : type = known → known.meet type = type := by
        intro same
        rw [same]
        exact Ty.meet_self normal
      exact ⟨fun asked type present here => meet (same.whenTrue asked type present here),
        fun asked type present here => meet (same.whenFalse asked type present here)⟩
  exact ⟨fun key type known found told => (narrower key known told).whenTrue key type found rfl,
    fun key type known found told => (narrower key known told).whenFalse key type found rfl⟩

end TypedTemplate
