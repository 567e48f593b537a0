import TypedTemplate.Text
import TypedTemplate.Ty.Operation

namespace TypedTemplate

inductive Version where
  | v1_0 | v2_0 | v2_1 | v2_2 | v2_3 | v2_4
deriving DecidableEq

namespace Version

def all : List Version := [v1_0, v2_0, v2_1, v2_2, v2_3, v2_4]

def latest : Version := v2_4

-- From 2.3 on `and`, `or` and `not` give `bool`, and a bare reference used as a
-- condition tells that it is not null.
def isModern : Version → Bool
  | v2_3 | v2_4 => true
  | _ => false

def text : Version → String
  | v1_0 => "1.0"
  | v2_0 => "2.0"
  | v2_1 => "2.1"
  | v2_2 => "2.2"
  | v2_3 => "2.3"
  | v2_4 => "2.4"

-- White space around the number does not count; any other text is refused with a reason.
def read (input : String) : Except String Version :=
  let trimmed := String.ofList (Text.trim input.toList)
  match all.find? fun version => version.text == trimmed with
  | some version => .ok version
  | none => .error ("unsupported syntax version: " ++ trimmed)

theorem read_text (version : Version) : read version.text = .ok version := by
  cases version <;> rfl

end Version

-- A source of type names beyond those registered one by one.
inductive Provider where
  | table (types : List (String × Ty))
  | alias (targets : List (String × String))
  -- Any known name with this ending, for a list of what the name stands for.
  | listSuffix (ending : String)

def Provider.aliases : Provider → List String
  | .alias targets => targets.map Prod.fst
  | _ => []

structure Registry where
  named : List (String × Ty)
  providers : List Provider

namespace Registry

def builtin : Registry :=
  ⟨Sorted.entries [("?", .unknown), ("null", .null), ("bool", .bool), ("int", .int), ("float", .float),
    ("string", .string)], []⟩

def register (registry : Registry) (name : String) (type : Ty) : Registry :=
  { registry with named := Sorted.insertEntry name type registry.named }

def addProvider (registry : Registry) (provider : Provider) : Registry :=
  { registry with providers := registry.providers ++ [provider] }

def stem? (ending : String) (name : List Char) : Option (List Char) :=
  let stem := name.take (name.length - ending.length)
  if name = stem ++ ending.toList ∧ stem.length < name.length then some stem else none

theorem stem?_shorter {ending : String} {name stem : List Char} (found : stem? ending name = some stem) :
    stem.length < name.length := by
  unfold stem? at found
  dsimp only at found
  split at found
  · rename_i holds; cases found; exact holds.2
  · cases found

-- What a name stands for, where `follow` says what the target of an alias does. The
-- first provider that knows the name answers.
def lookup (registry : Registry) (follow : String → Option Ty) (name : List Char) : Option Ty :=
  match registry.named.lookup (String.ofList name) with
  | some type => some type
  | none => registry.providers.findSome? fun
    | .table types => types.lookup (String.ofList name)
    | .alias targets => (targets.lookup (String.ofList name)).bind follow
    | .listSuffix ending =>
      match _shorter : stem? ending name with
      | none => none
      | some stem => (lookup registry follow stem).map .list
termination_by name.length
decreasing_by exact stem?_shorter _shorter

def lookupWithin (registry : Registry) : Nat → String → Option Ty
  | 0, name => registry.lookup (fun _ => none) name.toList
  | hops + 1, name => registry.lookup (lookupWithin registry hops) name.toList

-- The type that a name stands for. A search that follows more aliases than there are
-- goes in circles.
def typeNamed (registry : Registry) (name : String) : Option Ty :=
  registry.lookupWithin (registry.providers.flatMap Provider.aliases).length name

def summary (registry : Registry) : String :=
  "TypeRegistry \x7b named: [" ++ ", ".intercalate (registry.named.map fun entry => Text.quoted entry.1) ++
    "], providers: " ++ toString registry.providers.length ++ " \x7d"

end Registry

inductive ResultRule where
  | fixed (type : Ty)
  | argument (index : Nat)
  | keysOf (index : Nat)
  | numeric (left right : Nat)

-- The parameters of a function, the first `required` of which have to be given.
structure Signature where
  params : List Ty
  required : Nat
  result : ResultRule

namespace Signature

def ofParams (params : List Ty) (result : ResultRule) : Signature := ⟨params, params.length, result⟩

def withRequired (signature : Signature) (required : Nat) : Signature :=
  { signature with required := min required signature.params.length }

-- The keys of a record are its field names; of anything else but a map nothing is known.
def keyType : Ty → Ty
  | .map key _ => key
  | .record _ => .string
  | _ => .unknown

-- An argument that is missing counts as unknown.
def resultType (signature : Signature) (args : List Ty) : Ty :=
  let arg (index : Nat) : Ty := args.getD index .unknown
  match signature.result with
  | .fixed type => type
  | .argument index => arg index
  | .keysOf index => .list (keyType (arg index))
  | .numeric left right =>
    match Ty.arithmetic .plus (arg left) (arg right) with
    | .ok type => type
    | .error _ => .unknown

def builtin : List (String × Signature) :=
  let number := Ty.unionOf [.int, .float]
  [("isNonnull", ofParams [.unknown] (.fixed .bool)),
   ("length", ofParams [.list .unknown] (.fixed .int)),
   ("keys", ofParams [.unknown] (.keysOf 0)),
   ("augmentMap", ofParams [.unknown, .unknown] (.argument 0)),
   ("round", (ofParams [number, .int] (.numeric 0 0)).withRequired 1),
   ("floor", ofParams [number] (.fixed .int)),
   ("ceiling", ofParams [number] (.fixed .int)),
   ("min", ofParams [number, number] (.numeric 0 1)),
   ("max", ofParams [number, number] (.numeric 0 1)),
   ("randomInt", ofParams [.int] (.fixed .int)),
   ("range", (ofParams [.int, .int, .int] (.fixed (.list .int))).withRequired 1),
   ("strContains", ofParams [.string, .string] (.fixed .bool)),
   ("strIndexOf", ofParams [.string, .string] (.fixed .int)),
   ("strLen", ofParams [.string] (.fixed .int)),
   ("strSub", (ofParams [.string, .int, .int] (.fixed .string)).withRequired 2),
   ("parseInt", ofParams [.string] (.fixed (Ty.nullable .int))),
   ("parseFloat", ofParams [.string] (.fixed (Ty.nullable .float))),
   ("isFirst", ofParams [.unknown] (.fixed .bool)),
   ("isLast", ofParams [.unknown] (.fixed .bool)),
   ("index", ofParams [.unknown] (.fixed .int))]

def register (functions : List (String × Signature)) (name : String) (signature : Signature) :
    List (String × Signature) :=
  (name, signature) :: functions

end Signature

structure Context where
  typeNamed : String → Option Ty
  signature : String → Option Signature
  version : Version

def Context.builtin (version : Version) : Context :=
  ⟨Registry.builtin.typeNamed, fun name => Signature.builtin.lookup name, version⟩

end TypedTemplate
