import TypedTemplate.Constraints
import TypedTemplate.Diagnostic

namespace TypedTemplate

inductive SymbolKind where
  | requiredParam | optionalParam | injectedParam | optionalInjectedParam | localBinding
deriving DecidableEq

structure Symbol where
  name : String
  kind : SymbolKind
  declared : Ty

-- What a reference has before any narrowing: an optional parameter may be missing.
def Symbol.effective (symbol : Symbol) : Ty :=
  match symbol.kind with
  | .optionalParam | .optionalInjectedParam => symbol.declared.nullable
  | _ => symbol.declared

-- One block: what it declares, and what it knows more narrowly than was declared.
-- Of two narrowings of one reference the one in front counts.
structure Frame where
  symbols : List Symbol
  narrowed : List (RefKey × Ty)

namespace Frame

def empty : Frame := ⟨[], []⟩

def symbol? (frame : Frame) (name : String) : Option Symbol :=
  frame.symbols.find? fun symbol => symbol.name == name

def narrow (frame : Frame) (key : RefKey) (type : Ty) : Frame :=
  { frame with narrowed := (key, type) :: frame.narrowed }

-- A new name hides what was known of an outer one.
def declare (frame : Frame) (symbol : Symbol) : Frame :=
  ⟨symbol :: frame.symbols, frame.narrowed.filter fun entry => entry.1.root != symbol.name⟩

end Frame

structure Scope where
  current : Frame
  outer : List Frame

namespace Scope

def empty : Scope := ⟨.empty, []⟩

def frames (scope : Scope) : List Frame := scope.current :: scope.outer

def depth (scope : Scope) : Nat := scope.outer.length + 1

def enter (scope : Scope) : Scope := ⟨.empty, scope.frames⟩

-- The outermost block is never left.
def leave : Scope → Scope
  | ⟨_, frame :: outer⟩ => ⟨frame, outer⟩
  | scope => scope

-- Back to an earlier depth; at or below it nothing happens.
def exitTo (scope : Scope) (depth : Nat) : Scope :=
  Nat.repeat leave (scope.depth - max depth 1) scope

def narrow (scope : Scope) (key : RefKey) (type : Ty) : Scope :=
  { scope with current := scope.current.narrow key type }

def assume (scope : Scope) (constraints : Constraints) : Scope :=
  constraints.foldl (fun scope entry => scope.narrow entry.1 entry.2) scope

def under (scope : Scope) (constraints : Constraints) : Scope := scope.enter.assume constraints

def declare (scope : Scope) (symbol : Symbol) : Except Fault Scope :=
  match scope.current.symbol? symbol.name with
  | some _ => .error (.duplicateDeclaration symbol.name)
  | none => .ok { scope with current := scope.current.declare symbol }

def lookup (scope : Scope) (name : String) : Except Fault Symbol :=
  match scope.frames.findSome? fun frame => frame.symbol? name with
  | some symbol => .ok symbol
  | none => .error (.undefinedName name)

-- From the innermost block outward, the first that narrows the reference or
-- declares its variable decides. A path below a variable has a type only if narrowed.
def typeIn (key : RefKey) : List Frame → Option Ty
  | [] => none
  | frame :: outer =>
    match frame.narrowed.lookup key with
    | some type => some type
    | none =>
      match frame.symbol? key.root with
      | some symbol => if key.isBare then some symbol.effective else none
      | none => typeIn key outer

def typeOf (scope : Scope) (key : RefKey) : Option Ty := typeIn key scope.frames

theorem leave_enter (scope : Scope) : scope.enter.leave = scope := rfl

end Scope
end TypedTemplate
