import TypedTemplate.Expr
import TypedTemplate.Ty.Assign

namespace TypedTemplate

abbrev Constraints := List (RefKey × Ty)

namespace Constraints

-- Both sets hold: each key of either, and where they share one the narrower type.
def mergeAll (a b : Constraints) : Constraints :=
  b.foldl (fun merged entry => Sorted.insertEntry entry.1
    (match a.lookup entry.1 with
      | some known => known.meet entry.2
      | none => entry.2) merged) a

-- One of the sets holds: only what both of them constrain.
def mergeCommon (a b : Constraints) : Constraints :=
  a.filterMap fun (key, type) => (b.lookup key).map fun other => (key, type.join other)

end Constraints

structure Refinements where
  whenTrue : Constraints
  whenFalse : Constraints

namespace Refinements

def none : Refinements := ⟨[], []⟩

def swap (refinements : Refinements) : Refinements := ⟨refinements.whenFalse, refinements.whenTrue⟩

def isEmpty (refinements : Refinements) : Bool :=
  refinements.whenTrue.isEmpty && refinements.whenFalse.isEmpty

def both (a b : Refinements) : Refinements :=
  ⟨a.whenTrue.mergeAll b.whenTrue, a.whenFalse.mergeCommon b.whenFalse⟩

def either (a b : Refinements) : Refinements :=
  ⟨a.whenTrue.mergeCommon b.whenTrue, a.whenFalse.mergeAll b.whenFalse⟩

end Refinements
end TypedTemplate
