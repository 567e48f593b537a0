import TypedTemplate.Diagnostic
import TypedTemplate.Operator
import TypedTemplate.Ty
import TypedTemplate.Ty.Assign

namespace TypedTemplate

inductive IndexKey where
  | field (name : String)
  | value (type : Ty)

namespace Ty

def badOperands (operator : String) (operands : List Ty) : Fault :=
  .badOperandType operator (", ".intercalate (operands.map text))

-- Two integers give an integer and any other numbers a float. An unknown operand
-- makes the result unknown whatever the other one is.
def arithmetic (operator : BinaryOperator) (a b : Ty) : Except Fault Ty :=
  if a.isUnknown || b.isUnknown then .ok unknown
  else match a, b with
    | int, int => .ok int
    | _, _ =>
      if a.isNumeric && b.isNumeric then .ok float
      else .error (badOperands operator.symbol [a, b])

-- A string on either side makes `+` a concatenation.
def plus (a b : Ty) : Except Fault Ty :=
  if a.isString || b.isString then .ok string else arithmetic .plus a b

def comparison (_ _ : Ty) : Ty := bool

def negate (operand : Ty) : Except Fault Ty :=
  match operand with
  | unknown | int | float => .ok operand
  | _ => if operand.isNumeric then .ok float else .error (badOperands "-" [operand])

def listIndex (element : Ty) : IndexKey → Except Fault Ty
  | .value found =>
    if assignable found int then .ok element else .error (.invalidKeyType int.text found.text)
  | .field "length" => .ok int
  | .field name => .error (.undefinedField name (list element).text)

def mapIndex (key value : Ty) : IndexKey → Except Fault Ty
  | .value found =>
    if assignable found key then .ok value else .error (.invalidKeyType key.text found.text)
  | .field name =>
    if assignable string key then .ok value else .error (.undefinedField name (map key value).text)

def recordIndex (fields : List (String × Ty)) : IndexKey → Except Fault Ty
  | .field name =>
    match fields.lookup name with
    | some type => .ok type
    | none => .error (.undefinedField name (record fields).text)
  | .value found => .error (.invalidKeyType "string literal" found.text)

def indexSymbol : IndexKey → String
  | .field _ => "."
  | .value _ => "[]"

-- The type of a field or element. Every member of a union is asked but `null`,
-- and the first one to fail decides the fault.
mutual
def index (key : IndexKey) : Ty → Except Fault Ty
  | unknown => .ok unknown
  | list element => listIndex element key
  | map keyType value => mapIndex keyType value key
  | record fields => recordIndex fields key
  | union members => (indexMembers key members).map unionOf
  | type => .error (badOperands (indexSymbol key) [type])

def indexMembers (key : IndexKey) : List Ty → Except Fault (List Ty)
  | [] => .ok []
  | member :: rest =>
    if member.isNull then indexMembers key rest
    else match index key member with
      | .error fault => .error fault
      | .ok type => (indexMembers key rest).map (type :: ·)
end

def elements : List Ty → Option (List Ty)
  | [] => some []
  | list element :: rest => (elements rest).map (element :: ·)
  | _ :: _ => none

def element (iterable : Ty) : Except Fault Ty :=
  match iterable with
  | unknown => .ok unknown
  | list element => .ok element
  | union members =>
    match elements (members.filter fun member => !member.isNull) with
    | some types => .ok (unionOf types)
    | none => .error (badOperands "foreach" [iterable])
  | _ => .error (badOperands "foreach" [iterable])

end Ty
end TypedTemplate
