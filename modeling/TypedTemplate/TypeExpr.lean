import TypedTemplate.Diagnostic
import TypedTemplate.Ty

namespace TypedTemplate

inductive TypeExpr where
  | named (name : String) (position : Position)
  | generic (name : String) (args : List TypeExpr) (position : Position)
  | record (fields : List (String × TypeExpr)) (position : Position)
  | union (members : List TypeExpr)

namespace TypeExpr

-- A union stands where its first member does.
mutual
def position : TypeExpr → Position
  | named _ position | generic _ _ position | record _ position => position
  | union members => firstPosition members

def firstPosition : List TypeExpr → Position
  | [] => .nowhere
  | first :: _ => first.position
end

mutual
def text : TypeExpr → String
  | named name _ => name
  | generic name args _ => name ++ "<" ++ ", ".intercalate (texts args) ++ ">"
  | record fields _ => "[" ++ ", ".intercalate (fieldTexts fields) ++ "]"
  | union members => "|".intercalate (texts members)

def texts : List TypeExpr → List String
  | [] => []
  | typeExpr :: rest => typeExpr.text :: texts rest

def fieldTexts : List (String × TypeExpr) → List String
  | [] => []
  | (name, typeExpr) :: rest => (name ++ ": " ++ typeExpr.text) :: fieldTexts rest
end

-- The type an annotation stands for, given what names stand for, or what is wrong
-- with its first part that is wrong. A generic type is judged before its arguments,
-- a repeated field of a record before its type.
mutual
def resolve (typeNamed : String → Option Ty) : TypeExpr → Except Diagnostic Ty
  | named name position =>
    match typeNamed name with
    | some type => .ok type
    | none => .error ⟨.unknownType name, position, none⟩
  | generic "list" [element] _ => (resolve typeNamed element).map .list
  | generic "map" [key, value] _ =>
    match resolve typeNamed key with
    | .error diagnostic => .error diagnostic
    | .ok keyType => (resolve typeNamed value).map (.map keyType)
  | generic name args position => .error ⟨.unknownType (generic name args position).text, position, none⟩
  | record fields position => (resolveFields typeNamed position [] fields).map Ty.ofFields
  | union members => (resolveAll typeNamed members).map Ty.unionOf

def resolveAll (typeNamed : String → Option Ty) : List TypeExpr → Except Diagnostic (List Ty)
  | [] => .ok []
  | typeExpr :: rest =>
    match resolve typeNamed typeExpr with
    | .error diagnostic => .error diagnostic
    | .ok type => (resolveAll typeNamed rest).map (type :: ·)

def resolveFields (typeNamed : String → Option Ty) (position : Position) (seen : List String) :
    List (String × TypeExpr) → Except Diagnostic (List (String × Ty))
  | [] => .ok []
  | (name, typeExpr) :: rest =>
    if seen.contains name then .error ⟨.duplicateKey name, position, none⟩
    else match resolve typeNamed typeExpr with
      | .error diagnostic => .error diagnostic
      | .ok type => (resolveFields typeNamed position (name :: seen) rest).map ((name, type) :: ·)
end

end TypeExpr
end TypedTemplate
