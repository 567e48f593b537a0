import TypedTemplate.Context
import TypedTemplate.Expr.Refine
import TypedTemplate.Log
import TypedTemplate.Scope

namespace TypedTemplate

structure Typed where
  type : Ty
  log : Log

structure Verdict where
  type : Ty
  diagnostics : List Diagnostic

namespace Expr

def blame (node : Node) (fault : Fault) : Diagnostic := ⟨fault, node.span.start, some node.id⟩

-- An expression whose own rule fails has the unknown type and takes the blame.
def judged (node : Node) : Except Fault Ty → Verdict
  | .ok type => ⟨type, []⟩
  | .error fault => ⟨.unknown, [blame node fault]⟩

def settle (node : Node) (parts : Log) (verdict : Verdict) : Typed :=
  ⟨verdict.type, parts ++ ⟨[(node.id, verdict.type)], verdict.diagnostics⟩⟩

-- The data injected into a template from outside is not typed and not declared.
def injectedData : String := "ij"

def varType (scope : Scope) (name : String) : Except Fault Ty :=
  if name = injectedData then .ok .unknown
  else match scope.lookup name with
    | .error fault => .error fault
    | .ok _ => .ok ((scope.typeOf (.bare name)).getD .unknown)

def narrowedPath (scope : Scope) (key : RefKey) : Option Ty :=
  if key.isBare then none else scope.typeOf key

-- A null-safe access to something nullable may give `null`, and to `null` it does.
def access (base : Ty) (key : IndexKey) (nullSafe : Bool) : Except Fault Ty :=
  if nullSafe && base.isNull then .ok .null
  else match Ty.index key base with
    | .ok type => .ok (if nullSafe && base.isNullable then type.nullable else type)
    | .error fault => .error fault

-- A string literal in brackets names a field where there are records.
def indexKey (base : Ty) (key : Expr) (keyType : Ty) : IndexKey :=
  match key.stringLiteral? with
  | some name => if base.members.any Ty.isRecord then .field name else .value keyType
  | none => .value keyType

def unaryType (modern : Bool) (operator : UnaryOperator) (operand : Ty) : Except Fault Ty :=
  match operator with
  | .not => .ok (if modern then .bool else operand)
  | .negate => Ty.negate operand

def binaryType (modern : Bool) (operator : BinaryOperator) (left right : Ty) : Except Fault Ty :=
  match operator with
  | .plus => Ty.plus left right
  | .minus | .times | .divide | .modulo => Ty.arithmetic operator left right
  | .less | .lessEquals | .greater | .greaterEquals | .equals | .notEquals => .ok (Ty.comparison left right)
  | .and | .or => .ok (if modern then .bool else left.join right)
  | .orElse => .ok (left.removeNull.join right)

-- What is known where the right operand is evaluated: that `and` found its left
-- operand true, `or` found it false, and `?:` found it null.
def rightScope (modern : Bool) (scope : Scope) (operator : BinaryOperator) (left : Expr) (typed : Typed) : Scope :=
  match operator with
  | .and => scope.under (left.refine typed.log.typeOf modern).whenTrue
  | .or => scope.under (left.refine typed.log.typeOf modern).whenFalse
  | .orElse =>
    match left.refKey? with
    | some key => if typed.type.isNullable then scope.under [(key, .null)] else scope
    | none => scope
  | _ => scope

def repeatedKey? (seen : List String) : List (Expr × String) → Option (Expr × String)
  | [] => none
  | (key, name) :: rest => if seen.contains name then some (key, name) else repeatedKey? (name :: seen) rest

-- A map literal with string literals for keys, and with any keys, is a record.
def literalType (keys : List Expr) (keyTypes valueTypes : List Ty) : Verdict :=
  match keys.mapM stringLiteral? with
  | some (first :: names) =>
    match repeatedKey? [] (keys.zip (first :: names)) with
    | some (key, name) => ⟨.unknown, [blame key.node (.duplicateKey name)]⟩
    | none => ⟨.ofFields ((first :: names).zip valueTypes), []⟩
  | _ => ⟨.map (.unionOf keyTypes) (.unionOf valueTypes), []⟩

-- An argument that does not fit takes the blame itself.
def mismatches : List Expr → List Ty → List Ty → List Diagnostic
  | arg :: args, type :: types, param :: params =>
    let rest := mismatches args types params
    if type.assignable param then rest
    else blame arg.node (.argumentTypeMismatch param.text type.text) :: rest
  | _, _, _ => []

def callType (context : Context) (node : Node) (name : String) (args : List Expr) (types : List Ty) : Verdict :=
  match context.signature name with
  | none => judged node (.error (.undefinedFunction name))
  | some signature =>
    if signature.params.length < args.length then
      judged node (.error (.unexpectedArguments signature.params.length args.length))
    else if args.length < signature.required then
      judged node (.error (.missingArguments signature.required args.length))
    else match mismatches args types signature.params with
      | [] => ⟨signature.resultType types, []⟩
      | found => ⟨.unknown, found⟩

-- The type of an expression in a scope. Each part is typed once, in source order.
mutual
def infer (context : Context) (scope : Scope) : Expr → Typed
  | null node => settle node .empty (judged node (.ok .null))
  | bool node _ => settle node .empty (judged node (.ok .bool))
  | int node _ => settle node .empty (judged node (.ok .int))
  | float node _ => settle node .empty (judged node (.ok .float))
  | string node _ => settle node .empty (judged node (.ok .string))
  | list node items =>
    let parts := inferAll context scope items
    settle node (.concat (parts.map Typed.log)) (judged node (.ok (.list (.unionOf (parts.map Typed.type)))))
  | map node entries =>
    let parts := inferEntries context scope entries
    settle node (.concat (parts.map fun part => part.1.log ++ part.2.log))
      (literalType (entries.map Prod.fst) (parts.map fun part => part.1.type) (parts.map fun part => part.2.type))
  | var node name => settle node .empty (judged node (varType scope name))
  | field node base name nullSafe =>
    let part := infer context scope base
    settle node part.log (judged node
      (match (field node base name nullSafe).refKey?.bind (narrowedPath scope) with
        | some narrowed => .ok narrowed
        | none => access part.type (.field name) nullSafe))
  | index node base key nullSafe =>
    let part := infer context scope base
    let keyPart := infer context scope key
    settle node (part.log ++ keyPart.log)
      (judged node (access part.type (indexKey part.type key keyPart.type) nullSafe))
  | unary node operator operand =>
    let part := infer context scope operand
    settle node part.log (judged node (unaryType context.version.isModern operator part.type))
  | binary node operator left right =>
    let leftPart := infer context scope left
    let rightPart := infer context (rightScope context.version.isModern scope operator left leftPart) right
    settle node (leftPart.log ++ rightPart.log)
      (judged node (binaryType context.version.isModern operator leftPart.type rightPart.type))
  | conditional node condition thenValue elseValue =>
    let part := infer context scope condition
    let known := condition.refine part.log.typeOf context.version.isModern
    let thenPart := infer context (scope.under known.whenTrue) thenValue
    let elsePart := infer context (scope.under known.whenFalse) elseValue
    settle node (part.log ++ thenPart.log ++ elsePart.log) (judged node (.ok (thenPart.type.join elsePart.type)))
  | call node name args =>
    let parts := inferAll context scope args
    settle node (.concat (parts.map Typed.log)) (callType context node name args (parts.map Typed.type))

def inferAll (context : Context) (scope : Scope) : List Expr → List Typed
  | [] => []
  | expr :: rest => infer context scope expr :: inferAll context scope rest

def inferEntries (context : Context) (scope : Scope) : List (Expr × Expr) → List (Typed × Typed)
  | [] => []
  | (key, value) :: rest => (infer context scope key, infer context scope value) :: inferEntries context scope rest
end

theorem inferAll_eq_map (context : Context) (scope : Scope) (exprs : List Expr) :
    inferAll context scope exprs = exprs.map (infer context scope) := by
  induction exprs with
  | nil => rfl
  | cons expr rest ih => simp [inferAll, ih]

theorem types_inferAll (context : Context) (scope : Scope) (exprs : List Expr) :
    (inferAll context scope exprs).map Typed.type = exprs.map fun expr => (expr.infer context scope).type := by
  rw [inferAll_eq_map, List.map_map]
  rfl

end Expr
end TypedTemplate
