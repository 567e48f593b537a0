import TypedTemplate.Proofs.Scope
import TypedTemplate.Proofs.Ty.Kept

namespace TypedTemplate

open Ty (Kept)

structure Frame.Each (frame : Frame) (among : Ty → Prop) : Prop where
  symbols : ∀ symbol ∈ frame.symbols, among symbol.declared
  narrowed : ∀ entry ∈ frame.narrowed, among entry.2

def Scope.Each (scope : Scope) (among : Ty → Prop) : Prop := ∀ frame ∈ scope.frames, frame.Each among

variable {among : Ty → Prop} {scope : Scope}

theorem Symbol.effective_kept (kept : Kept among) {symbol : Symbol} (holds : among symbol.declared) :
    among symbol.effective := by
  unfold effective
  split
  · exact kept.nullable holds
  · exact kept.nullable holds
  · exact holds

theorem Frame.Each.empty : Frame.empty.Each among := ⟨nofun, nofun⟩

namespace Scope.Each

theorem typeOf (each : scope.Each among) (kept : Kept among) {key : RefKey} {type : Ty}
    (found : scope.typeOf key = some type) : among type := by
  unfold Scope.typeOf at found
  unfold Scope.Each at each
  generalize scope.frames = frames at found each
  induction frames with
  | nil => cases found
  | cons frame outer ih =>
    have first := each frame List.mem_cons_self
    unfold typeIn at found
    split at found
    · rename_i narrowed
      cases found
      exact first.narrowed _ (Sorted.mem_of_lookup narrowed)
    · split at found
      · rename_i symbol declared
        split at found
        · cases found
          exact Symbol.effective_kept kept (first.symbols symbol (List.mem_of_find?_eq_some declared))
        · cases found
      · exact ih found fun frame later => each frame (List.mem_cons_of_mem _ later)

theorem empty : Scope.empty.Each among := by
  intro frame present
  cases List.mem_singleton.mp present
  exact .empty

theorem enter (each : scope.Each among) : scope.enter.Each among := by
  intro frame present
  rcases List.mem_cons.mp present with rfl | outer
  · exact .empty
  · exact each frame outer

theorem leave (each : scope.Each among) : scope.leave.Each among := by
  unfold Scope.leave
  split
  · exact fun frame present => each frame (List.mem_cons_of_mem _ present)
  · exact each

theorem exitTo (each : scope.Each among) (depth : Nat) : (scope.exitTo depth).Each among := by
  unfold Scope.exitTo
  induction scope.depth - max depth 1 with
  | zero => exact each
  | succ times ih => exact ih.leave

theorem narrow (each : scope.Each among) (key : RefKey) {type : Ty} (told : among type) :
    (scope.narrow key type).Each among := by
  intro frame present
  rcases List.mem_cons.mp present with rfl | outer
  · have current := each scope.current List.mem_cons_self
    refine ⟨current.symbols, fun entry listed => ?_⟩
    rcases List.mem_cons.mp listed with rfl | earlier
    · exact told
    · exact current.narrowed entry earlier
  · exact each frame (List.mem_cons_of_mem _ outer)

theorem assume (each : scope.Each among) {constraints : Constraints} (told : ∀ entry ∈ constraints, among entry.2) :
    (scope.assume constraints).Each among := by
  unfold Scope.assume
  induction constraints generalizing scope with
  | nil => exact each
  | cons entry rest ih =>
    exact ih (each.narrow entry.1 (told entry List.mem_cons_self)) fun entry later =>
      told entry (List.mem_cons_of_mem _ later)

theorem under (each : scope.Each among) {constraints : Constraints} (told : ∀ entry ∈ constraints, among entry.2) :
    (scope.under constraints).Each among := each.enter.assume told

theorem declare (each : scope.Each among) {symbol : Symbol} {declared : Scope} (holds : among symbol.declared)
    (opened : scope.declare symbol = .ok declared) : declared.Each among := by
  rw [(of_declare opened).2]
  intro frame present
  rcases List.mem_cons.mp present with rfl | outer
  · have current := each scope.current List.mem_cons_self
    refine ⟨fun other listed => ?_, fun entry listed => current.narrowed entry (List.mem_of_mem_filter listed)⟩
    rcases List.mem_cons.mp listed with rfl | earlier
    · exact holds
    · exact current.symbols other earlier
  · exact each frame (List.mem_cons_of_mem _ outer)

end Scope.Each

theorem Scope.typeOf_of_declares {name : String} (declared : scope.declares name) :
    ∃ type, scope.typeOf (.bare name) = some type := by
  obtain ⟨symbol, found⟩ := declared
  unfold lookup at found
  unfold typeOf
  generalize scope.frames = frames at found
  induction frames with
  | nil => cases found
  | cons frame outer ih =>
    rw [List.findSome?_cons] at found
    unfold typeIn
    split
    · exact ⟨_, rfl⟩
    · split
      · exact ⟨_, rfl⟩
      · rename_i undeclared
        rw [show frame.symbol? name = none from undeclared] at found
        exact ih found

end TypedTemplate
