import TypedTemplate.Ty

namespace TypedTemplate.Ty

mutual
def leaves : Ty → List Ty
  | union members => leavesOf members
  | type => [type]

def leavesOf : List Ty → List Ty
  | [] => []
  | member :: rest => member.leaves ++ leavesOf rest
end

-- Whether a value of the first type may stand where the second is expected.
-- `unknown` fits on both sides. Every member of a union has to fit, and a type
-- that is no union fits if one alternative of the expected type takes it.
mutual
def assignable : Ty → Ty → Bool
  | unknown, _ => true
  | union members, target => assignableAll members target
  | list element, target => target.leaves.any fun
    | unknown => true
    | list expected => assignable element expected
    | _ => false
  | map key value, target => target.leaves.any fun
    | unknown => true
    | map expectedKey expectedValue => assignable key expectedKey && assignable value expectedValue
    | _ => false
  | record fields, target => target.leaves.any fun
    | unknown => true
    | record expected => fields.length == expected.length && assignableFields fields expected
    | _ => false
  | source, target => target.leaves.any fun alternative => alternative.isUnknown || alternative == source

def assignableAll : List Ty → Ty → Bool
  | [], _ => true
  | member :: rest, target => assignable member target && assignableAll rest target

def assignableFields : List (String × Ty) → List (String × Ty) → Bool
  | [], _ => true
  | (name, type) :: rest, expected =>
    (match expected.lookup name with
      | some wanted => assignable type wanted
      | none => false) && assignableFields rest expected
end

theorem assignableAll_eq_all (types : List Ty) (target : Ty) :
    assignableAll types target = types.all fun type => assignable type target := by
  induction types with
  | nil => rfl
  | cons type rest ih => simp [assignableAll, ih]

theorem leavesOf_eq_flatMap (types : List Ty) : leavesOf types = types.flatMap leaves := by
  induction types with
  | nil => rfl
  | cons type rest ih => simp [leavesOf, ih]

-- The narrower of two types known of one value. Where neither fits the other the
-- members of the first that fit the second remain; if none does, the second counts.
def meet (a b : Ty) : Ty :=
  if a.isUnknown then b
  else if b.isUnknown || assignable a b then a
  else if assignable b a then b
  else match a.members.filter fun member => assignable member b with
    | [] => b
    | common => unionOf common

end TypedTemplate.Ty
