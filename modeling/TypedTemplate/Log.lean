import TypedTemplate.Diagnostic
import TypedTemplate.Ty

namespace TypedTemplate

-- What a check finds: the types of expressions by their numbers, the newest in
-- front, and diagnostics in the order they are reported.
structure Log where
  types : List (Nat × Ty)
  diagnostics : List Diagnostic

namespace Log

def empty : Log := ⟨[], []⟩

def append (earlier later : Log) : Log :=
  ⟨later.types ++ earlier.types, earlier.diagnostics ++ later.diagnostics⟩

instance : Append Log := ⟨append⟩

def concat : List Log → Log
  | [] => empty
  | log :: rest => log ++ concat rest

def typeOf (log : Log) (id : Nat) : Option Ty := log.types.lookup id

def hasErrors (log : Log) : Bool := !log.diagnostics.isEmpty

theorem types_append (a b : Log) : (a ++ b).types = b.types ++ a.types := rfl
theorem diagnostics_append (a b : Log) : (a ++ b).diagnostics = a.diagnostics ++ b.diagnostics := rfl

theorem empty_append (log : Log) : empty ++ log = log := by
  show Log.mk (log.types ++ []) ([] ++ log.diagnostics) = log
  simp

theorem append_empty (log : Log) : log ++ empty = log := by
  show Log.mk ([] ++ log.types) (log.diagnostics ++ []) = log
  simp

theorem append_assoc (a b c : Log) : a ++ b ++ c = a ++ (b ++ c) := by
  show Log.mk (c.types ++ (b.types ++ a.types)) (a.diagnostics ++ b.diagnostics ++ c.diagnostics) =
    ⟨c.types ++ b.types ++ a.types, a.diagnostics ++ (b.diagnostics ++ c.diagnostics)⟩
  simp

theorem typeOf_append (a b : Log) (id : Nat) : (a ++ b).typeOf id = (b.typeOf id).or (a.typeOf id) :=
  List.lookup_append

end Log
end TypedTemplate
