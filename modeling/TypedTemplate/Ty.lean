import TypedTemplate.Sorted

namespace TypedTemplate

-- A static type. `unknown` stands for any value and checks against everything.
-- Record fields are in name order, union members in the order of types
-- (`Ty.compare`), neither with repetitions.
inductive Ty where
  | unknown | null | bool | int | float | string
  | list (element : Ty)
  | map (key value : Ty)
  | record (fields : List (String × Ty))
  | union (members : List Ty)

namespace Ty

def isUnknown : Ty → Bool
  | unknown => true
  | _ => false

def isNull : Ty → Bool
  | null => true
  | _ => false

def isString : Ty → Bool
  | string => true
  | _ => false

def isNumber : Ty → Bool
  | int | float => true
  | _ => false

def isRecord : Ty → Bool
  | record _ => true
  | _ => false

def members : Ty → List Ty
  | union members => members
  | type => [type]

def isNullable (type : Ty) : Bool := type.members.any isNull

def isNumeric (type : Ty) : Bool := type.members.all isNumber

def ofFields (fields : List (String × Ty)) : Ty := record (Sorted.entries fields)

-- A type as it is shown to the reader and written in an annotation. In a union
-- `null` comes last, wherever the order of types has it.
mutual
def text : Ty → String
  | unknown => "?"
  | null => "null"
  | bool => "bool"
  | int => "int"
  | float => "float"
  | string => "string"
  | list element => "list<" ++ element.text ++ ">"
  | map key value => "map<" ++ key.text ++ ", " ++ value.text ++ ">"
  | record fields => "[" ++ ", ".intercalate (fieldTexts fields) ++ "]"
  | union members => "|".intercalate (memberTexts members ++ if members.any isNull then ["null"] else [])

def fieldTexts : List (String × Ty) → List String
  | [] => []
  | (name, type) :: rest => (name ++ ": " ++ type.text) :: fieldTexts rest

def memberTexts : List Ty → List String
  | [] => []
  | member :: rest => if member.isNull then memberTexts rest else member.text :: memberTexts rest
end

-- The order in which a union lists its members: by shape first, and within one
-- shape by the parts from left to right, a shorter list before its extensions.
def rank : Ty → Nat
  | unknown => 0
  | null => 1
  | bool => 2
  | int => 3
  | float => 4
  | string => 5
  | list _ => 6
  | map _ _ => 7
  | record _ => 8
  | union _ => 9

mutual
def order : Ty → Ty → Ordering
  | list a, list b => order a b
  | map a b, map c d => (order a c).then (order b d)
  | record a, record b => orderFields a b
  | union a, union b => orderMembers a b
  | a, b => compare a.rank b.rank

def orderFields : List (String × Ty) → List (String × Ty) → Ordering
  | [], [] => .eq
  | [], _ :: _ => .lt
  | _ :: _, [] => .gt
  | (name, type) :: rest, (name', type') :: rest' =>
    ((compare name name').then (order type type')).then (orderFields rest rest')

def orderMembers : List Ty → List Ty → Ordering
  | [], [] => .eq
  | [], _ :: _ => .lt
  | _ :: _, [] => .gt
  | type :: rest, type' :: rest' => (order type type').then (orderMembers rest rest')
end

instance : Ord Ty := ⟨order⟩

mutual
theorem order_self : ∀ type : Ty, order type type = .eq
  | unknown | null | bool | int | float | string => rfl
  | list element => order_self element
  | map key value => by simp [order, order_self key, order_self value]
  | record fields => orderFields_self fields
  | union members => orderMembers_self members

theorem orderFields_self : ∀ fields : List (String × Ty), orderFields fields fields = .eq
  | [] => rfl
  | (name, type) :: rest => by
    simp [orderFields, Std.ReflOrd.compare_self, order_self type, orderFields_self rest]

theorem orderMembers_self : ∀ members : List Ty, orderMembers members members = .eq
  | [] => rfl
  | type :: rest => by simp [orderMembers, order_self type, orderMembers_self rest]
end

mutual
theorem eq_of_order : ∀ a b : Ty, order a b = .eq → a = b
  | unknown, b | null, b | bool, b | int, b | float, b | string, b => by
    cases b <;> simp [order, rank, compare, compareOfLessAndEq]
  | list a, b => by
    cases b <;> simp [order, rank, compare, compareOfLessAndEq]
    exact eq_of_order a _
  | map a b, c => by
    cases c <;> simp [order, rank, compare, compareOfLessAndEq]
    exact fun keys values => ⟨eq_of_order a _ keys, eq_of_order b _ values⟩
  | record a, b => by
    cases b <;> simp [order, rank, compare, compareOfLessAndEq]
    exact eq_of_orderFields a _
  | union a, b => by
    cases b <;> simp [order, rank, compare, compareOfLessAndEq]
    exact eq_of_orderMembers a _

theorem eq_of_orderFields : ∀ a b : List (String × Ty), orderFields a b = .eq → a = b
  | [], [] => fun _ => rfl
  | [], _ :: _ => by simp [orderFields]
  | _ :: _, [] => by simp [orderFields]
  | (name, type) :: rest, (name', type') :: rest' => by
    simp only [orderFields, Ordering.then_eq_eq, List.cons.injEq, Prod.mk.injEq]
    exact fun ⟨⟨names, types⟩, tails⟩ =>
      ⟨⟨Std.compare_eq_iff_eq.mp names, eq_of_order type type' types⟩, eq_of_orderFields rest rest' tails⟩

theorem eq_of_orderMembers : ∀ a b : List Ty, orderMembers a b = .eq → a = b
  | [], [] => fun _ => rfl
  | [], _ :: _ => by simp [orderMembers]
  | _ :: _, [] => by simp [orderMembers]
  | type :: rest, type' :: rest' => by
    simp only [orderMembers, Ordering.then_eq_eq, List.cons.injEq]
    exact fun ⟨types, tails⟩ => ⟨eq_of_order type type' types, eq_of_orderMembers rest rest' tails⟩
end

theorem order_eq_iff {a b : Ty} : order a b = .eq ↔ a = b :=
  ⟨eq_of_order a b, fun same => same ▸ order_self a⟩

instance : DecidableEq Ty := fun _ _ => decidable_of_iff _ order_eq_iff

instance : Std.LawfulEqOrd Ty where
  compare_self := order_self _
  eq_of_compare := eq_of_order _ _

-- The type of a value that has one of the given types. Unions among them are
-- opened, `unknown` absorbs the rest, and a lone member stands for itself. With
-- nothing to choose from nothing is known.
def unionOf (types : List Ty) : Ty :=
  if types.any isUnknown then unknown
  else match Sorted.members (types.flatMap members) with
    | [] => unknown
    | [only] => only
    | several => union several

-- One of two types; written `join` because `union` is the constructor.
def join (a b : Ty) : Ty := unionOf [a, b]

def nullable (type : Ty) : Ty := join type null

def removeNull : Ty → Ty
  | union members => unionOf (members.filter fun member => !member.isNull)
  | type => type

theorem unionOf_unknown {types : List Ty} (absorbed : unknown ∈ types) : unionOf types = unknown := by
  have found : types.any isUnknown = true := List.any_eq_true.mpr ⟨unknown, absorbed, rfl⟩
  simp [unionOf, found]

end Ty
end TypedTemplate
