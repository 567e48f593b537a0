import TypedTemplate.Constraints
import TypedTemplate.Expr

namespace TypedTemplate.Expr

-- What a condition tells about the references in it. Only tests for null tell
-- something, alone or under `not`, `and`, `or`; what is equivalent to such a test in
-- another form tells nothing. `typeOf` gives the types of the parts of the condition.
def refineNonNull (typeOf : Nat → Option Ty) (expr : Expr) : Refinements :=
  match expr.refKey?, typeOf expr.id with
  | some key, some type =>
    if type.isNullable then ⟨[(key, type.removeNull)], [(key, .null)]⟩ else .none
  | _, _ => .none

def refineNullComparison (typeOf : Nat → Option Ty) (left right : Expr) : Refinements :=
  if right.isNull then refineNonNull typeOf left
  else if left.isNull then refineNonNull typeOf right
  else .none

-- In older versions a reference used as a condition tells nothing.
def refineBare (typeOf : Nat → Option Ty) (modern : Bool) (expr : Expr) : Refinements :=
  if modern then refineNonNull typeOf expr else .none

def refine (typeOf : Nat → Option Ty) (modern : Bool) : Expr → Refinements
  | binary _ .notEquals left right => refineNullComparison typeOf left right
  | binary _ .equals left right => (refineNullComparison typeOf left right).swap
  | binary _ .and left right => (refine typeOf modern left).both (refine typeOf modern right)
  | binary _ .or left right => (refine typeOf modern left).either (refine typeOf modern right)
  | unary _ .not operand => (refine typeOf modern operand).swap
  | call _ "isNonnull" [arg] => refineNonNull typeOf arg
  | var node name => refineBare typeOf modern (var node name)
  | field node base name nullSafe => refineBare typeOf modern (field node base name nullSafe)
  | _ => .none

end TypedTemplate.Expr
