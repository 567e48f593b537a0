import TypedTemplate.Proofs.Token.Word
import TypedTemplate.Proofs.TypeExpr.Resolve
import TypedTemplate.TypeExpr.Parse

namespace TypedTemplate.TypeExpr

def nameWord (name : String) : Word :=
  if name = "?" then TokenKind.question.word
  else if name = "null" then TokenKind.nullWord.word
  else (.identifier, name)

mutual
def write : TypeExpr → List Word
  | named name _ => [nameWord name]
  | generic name [] _ => [(.identifier, name), TokenKind.less.word, TokenKind.greater.word]
  | generic name (first :: rest) _ =>
    (.identifier, name) :: TokenKind.less.word ::
      (write first ++ (writeAfter TokenKind.comma.word rest ++ [TokenKind.greater.word]))
  | record [] _ => [TokenKind.openBracket.word, TokenKind.closeBracket.word]
  | record ((name, type) :: rest) _ =>
    TokenKind.openBracket.word :: (.identifier, name) :: TokenKind.colon.word ::
      (write type ++ (writeFields rest ++ [TokenKind.closeBracket.word]))
  | union [] => []
  | union (first :: rest) => write first ++ writeAfter TokenKind.pipe.word rest

def writeAfter (separator : Word) : List TypeExpr → List Word
  | [] => []
  | typeExpr :: rest => separator :: (write typeExpr ++ writeAfter separator rest)

def writeFields : List (String × TypeExpr) → List Word
  | [] => []
  | (name, type) :: rest =>
    TokenKind.comma.word :: (.identifier, name) :: TokenKind.colon.word :: (write type ++ writeFields rest)
end

def isUnion : TypeExpr → Bool
  | union _ => true
  | _ => false

-- The annotations that have a spelling of their own: a generic type has arguments, and a
-- union several members, none of them a union.
mutual
def Proper : TypeExpr → Prop
  | named _ _ => True
  | generic _ args _ => args ≠ [] ∧ AllProper args
  | record fields _ => FieldsProper fields
  | union members => 2 ≤ members.length ∧ (∀ member ∈ members, member.isUnion = false) ∧ AllProper members

def AllProper : List TypeExpr → Prop
  | [] => True
  | typeExpr :: rest => typeExpr.Proper ∧ AllProper rest

def FieldsProper : List (String × TypeExpr) → Prop
  | [] => True
  | (_, type) :: rest => type.Proper ∧ FieldsProper rest
end

theorem allProper_iff {typeExprs : List TypeExpr} : AllProper typeExprs ↔ ∀ typeExpr ∈ typeExprs, typeExpr.Proper := by
  induction typeExprs with
  | nil => exact iff_of_true trivial nofun
  | cons typeExpr rest ih => rw [AllProper, List.forall_mem_cons, ih]

theorem fieldsProper_iff {fields : List (String × TypeExpr)} : FieldsProper fields ↔ ∀ field ∈ fields, field.2.Proper := by
  induction fields with
  | nil => exact iff_of_true trivial nofun
  | cons field rest ih => rw [FieldsProper, List.forall_mem_cons, ih]

mutual
def shape : TypeExpr → TypeExpr
  | named name _ => named name .nowhere
  | generic name args _ => generic name (shapes args) .nowhere
  | record fields _ => record (fieldShapes fields) .nowhere
  | union members => union (shapes members)

def shapes : List TypeExpr → List TypeExpr
  | [] => []
  | typeExpr :: rest => typeExpr.shape :: shapes rest

def fieldShapes : List (String × TypeExpr) → List (String × TypeExpr)
  | [] => []
  | (name, type) :: rest => (name, type.shape) :: fieldShapes rest
end

theorem length_shapes (typeExprs : List TypeExpr) : (shapes typeExprs).length = typeExprs.length := by
  induction typeExprs with
  | nil => rfl
  | cons typeExpr rest ih => rw [shapes, List.length_cons, List.length_cons, ih]

theorem toOption_map {α β : Type} (f : α → β) (rule : Except Diagnostic α) :
    (rule.map f).toOption = rule.toOption.map f := by
  cases rule <;> rfl

theorem of_toOption_eq {α : Type} {rule rule' : Except Diagnostic α} (same : rule.toOption = rule'.toOption) :
    (∃ value, rule = .ok value ∧ rule' = .ok value) ∨ ∃ found found', rule = .error found ∧ rule' = .error found' := by
  cases rule with
  | ok value =>
    cases rule' with
    | ok value' => exact .inl ⟨value, rfl, congrArg Except.ok (Option.some.inj same).symm⟩
    | error found => cases same
  | error found =>
    cases rule' with
    | ok value => cases same
    | error found' => exact .inr ⟨found, found', rfl, rfl⟩

mutual
theorem resolve_shape (typeNamed : String → Option Ty) : ∀ typeExpr : TypeExpr,
    (typeExpr.shape.resolve typeNamed).toOption = (typeExpr.resolve typeNamed).toOption
  | named name position => by
    rw [shape, resolve, resolve]
    cases typeNamed name <;> rfl
  | generic name args position => by
    by_cases taken : (Demand.takes name args position).Met typeNamed
    · match name, args, taken with
      | _, [element], .inl ⟨rfl, _⟩ =>
        rw [shape, shapes, shapes, resolve, resolve, toOption_map, toOption_map, resolve_shape typeNamed element]
      | _, [key, value], .inr ⟨rfl, _⟩ =>
        rw [shape, shapes, shapes, shapes, resolve, resolve]
        rcases of_toOption_eq (resolve_shape typeNamed key) with ⟨keyType, found, found'⟩ | ⟨_, _, failed, failed'⟩
        · simp only [found, found', toOption_map, resolve_shape typeNamed value]
        · rw [failed, failed']
          rfl
    · have untaken : ¬ (Demand.takes name (shapes args) .nowhere).Met typeNamed := by
        rwa [Demand.Met, length_shapes]
      rw [shape, resolve_untaken taken, resolve_untaken untaken]
      rfl
  | record fields position => by
    rw [shape, resolve, resolve, toOption_map, toOption_map, resolveFields_shape typeNamed fields]
  | union members => by
    rw [shape, resolve, resolve, toOption_map, toOption_map, resolveAll_shape typeNamed members]

theorem resolveAll_shape (typeNamed : String → Option Ty) : ∀ typeExprs : List TypeExpr,
    (resolveAll typeNamed (shapes typeExprs)).toOption = (resolveAll typeNamed typeExprs).toOption
  | [] => rfl
  | typeExpr :: rest => by
    rw [shapes, resolveAll, resolveAll]
    rcases of_toOption_eq (resolve_shape typeNamed typeExpr) with ⟨type, found, found'⟩ | ⟨_, _, failed, failed'⟩
    · simp only [found, found', toOption_map, resolveAll_shape typeNamed rest]
    · rw [failed, failed']
      rfl

theorem resolveFields_shape (typeNamed : String → Option Ty) {position position' : Position} :
    ∀ (fields : List (String × TypeExpr)) {seen : List String},
      (resolveFields typeNamed position seen (fieldShapes fields)).toOption =
        (resolveFields typeNamed position' seen fields).toOption
  | [], _ => rfl
  | (name, type) :: rest, seen => by
    rw [fieldShapes, resolveFields, resolveFields]
    split
    · rfl
    rcases of_toOption_eq (resolve_shape typeNamed type) with ⟨type, found, found'⟩ | ⟨_, _, failed, failed'⟩
    · simp only [found, found', toOption_map]
      exact congrArg (Option.map _) (resolveFields_shape typeNamed rest)
    · rw [failed, failed']
      rfl
end

end TypedTemplate.TypeExpr
