import TypedTemplate.Operator
import TypedTemplate.Source

namespace TypedTemplate

-- A reference that can be narrowed: a variable and the plain field accesses after it.
structure RefKey where
  root : String
  path : List String
deriving DecidableEq

namespace RefKey

def bare (name : String) : RefKey := ⟨name, []⟩

def field (key : RefKey) (name : String) : RefKey := { key with path := key.path ++ [name] }

def isBare (key : RefKey) : Bool := key.path.isEmpty

def text (key : RefKey) : String := ".".intercalate (key.root :: key.path)

instance : Ord RefKey := ⟨fun a b => (compare a.root b.root).then (compare a.path b.path)⟩

instance : Std.LawfulEqOrd RefKey where
  compare_self := by
    intro key
    simp [compare, Ordering.then_eq_eq]
    exact ⟨Std.ReflOrd.compare_self (a := key.root), Std.ReflOrd.compare_self (a := key.path)⟩
  eq_of_compare := by
    intro a b same
    obtain ⟨roots, paths⟩ := Ordering.then_eq_eq.mp same
    cases a; cases b
    rw [RefKey.mk.injEq]
    exact ⟨Std.compare_eq_iff_eq.mp roots, Std.compare_eq_iff_eq.mp paths⟩

end RefKey

structure Node where
  id : Nat
  span : Span
deriving DecidableEq

inductive Expr where
  | null (node : Node)
  | bool (node : Node) (value : Bool)
  | int (node : Node) (value : Int)
  -- The number by its bits in the binary64 format.
  | float (node : Node) (bits : UInt64)
  | string (node : Node) (value : String)
  | list (node : Node) (items : List Expr)
  | map (node : Node) (entries : List (Expr × Expr))
  | var (node : Node) (name : String)
  -- With `nullSafe` an access to `null` gives `null`.
  | field (node : Node) (base : Expr) (name : String) (nullSafe : Bool)
  | index (node : Node) (base key : Expr) (nullSafe : Bool)
  | unary (node : Node) (operator : UnaryOperator) (operand : Expr)
  | binary (node : Node) (operator : BinaryOperator) (left right : Expr)
  | conditional (node : Node) (condition thenValue elseValue : Expr)
  | call (node : Node) (name : String) (args : List Expr)

namespace Expr

def node : Expr → Node
  | null node | bool node _ | int node _ | float node _ | string node _ | list node _ | map node _
  | var node _ | field node _ _ _ | index node _ _ _ | unary node _ _ | binary node _ _ _
  | conditional node _ _ _ | call node _ _ => node

def id (expr : Expr) : Nat := expr.node.id

def span (expr : Expr) : Span := expr.node.span

def stringLiteral? : Expr → Option String
  | string _ value => some value
  | _ => none

def isNull : Expr → Bool
  | null _ => true
  | _ => false

def refKey? : Expr → Option RefKey
  | var _ name => some (.bare name)
  | field _ base name false => (refKey? base).map fun key => key.field name
  | _ => none

-- An expression and all those inside it, each after its parts, in source order.
mutual
def subterms : Expr → List Expr
  | list node items => subtermsOf items ++ [list node items]
  | map node entries => subtermsOfEntries entries ++ [map node entries]
  | field node base name nullSafe => base.subterms ++ [field node base name nullSafe]
  | index node base key nullSafe => base.subterms ++ key.subterms ++ [index node base key nullSafe]
  | unary node operator operand => operand.subterms ++ [unary node operator operand]
  | binary node operator left right => left.subterms ++ right.subterms ++ [binary node operator left right]
  | conditional node condition thenValue elseValue =>
    condition.subterms ++ thenValue.subterms ++ elseValue.subterms ++
      [conditional node condition thenValue elseValue]
  | call node name args => subtermsOf args ++ [call node name args]
  | atom => [atom]

def subtermsOf : List Expr → List Expr
  | [] => []
  | expr :: rest => expr.subterms ++ subtermsOf rest

def subtermsOfEntries : List (Expr × Expr) → List Expr
  | [] => []
  | (key, value) :: rest => key.subterms ++ value.subterms ++ subtermsOfEntries rest
end

theorem self_mem_subterms (expr : Expr) : expr ∈ expr.subterms := by
  cases expr <;> simp [subterms]

end Expr

end TypedTemplate
