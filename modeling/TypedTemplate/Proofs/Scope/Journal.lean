import TypedTemplate.Proofs.Scope

namespace TypedTemplate

namespace Scope

-- What can be asked of a scope that changes it. A mark is the depth that was left when a
-- block was entered.
inductive Call where
  | declare (symbol : Symbol)
  | narrow (key : RefKey) (type : Ty)
  | enter
  | exitTo (mark : Nat)

def perform (scope : Scope) : Call → Scope
  | .declare symbol => (scope.declare symbol).toOption.getD scope
  | .narrow key type => scope.narrow key type
  | .enter => scope.enter
  | .exitTo mark => scope.exitTo mark

def after (calls : List Call) : Scope := calls.foldl perform .empty

inductive Event where
  | declared (symbol : Symbol)
  | narrowed (key : RefKey) (type : Ty)

namespace Event

def declared? (name : String) : Event → Option Symbol
  | .declared symbol => if name = symbol.name then some symbol else none
  | .narrowed _ _ => none

theorem isSome_declared? {event : Event} {name : String} :
    (event.declared? name).isSome ↔ ∃ symbol : Symbol, symbol.name = name ∧ event = .declared symbol := by
  cases event with
  | narrowed known type => exact ⟨nofun, nofun⟩
  | declared symbol =>
    rw [declared?]
    split
    · rename_i same
      exact ⟨fun _ => ⟨symbol, same.symm, rfl⟩, fun _ => rfl⟩
    · rename_i other
      refine ⟨nofun, ?_⟩
      rintro ⟨_, named, same⟩
      cases same
      exact absurd named.symm other

def decides (key : RefKey) : Event → Option (Option Ty)
  | .declared symbol => if key.root = symbol.name then some (if key.isBare then some symbol.effective else none) else none
  | .narrowed known type => if key = known then some (some type) else none

end Event

structure Entry where
  depth : Nat
  event : Event

structure Journal where
  depth : Nat
  entries : List Entry

namespace Journal

def empty : Journal := ⟨1, []⟩

def note (journal : Journal) (event : Event) : Journal := { journal with entries := ⟨journal.depth, event⟩ :: journal.entries }

def declaresHere (journal : Journal) (name : String) : Bool :=
  journal.entries.any fun entry => entry.depth == journal.depth && (entry.event.declared? name).isSome

theorem declaresHere_iff {journal : Journal} {name : String} : journal.declaresHere name ↔
    ∃ earlier : Symbol, earlier.name = name ∧ ⟨journal.depth, .declared earlier⟩ ∈ journal.entries := by
  simp only [declaresHere, List.any_eq_true, Bool.and_eq_true, beq_iff_eq, Event.isSome_declared?]
  constructor
  · rintro ⟨⟨depth, event⟩, among, rfl, symbol, named, rfl⟩
    exact ⟨symbol, named, among⟩
  · rintro ⟨symbol, named, among⟩
    exact ⟨_, among, rfl, symbol, named, rfl⟩

def cutTo (journal : Journal) (depth : Nat) : Journal := ⟨depth, journal.entries.filter fun entry => entry.depth ≤ depth⟩

def record (journal : Journal) : Call → Journal
  | .declare symbol => if journal.declaresHere symbol.name then journal else journal.note (.declared symbol)
  | .narrow key type => journal.note (.narrowed key type)
  | .enter => { journal with depth := journal.depth + 1 }
  | .exitTo mark => journal.cutTo (min journal.depth (max mark 1))

def of (calls : List Call) : Journal := calls.foldl record .empty

end Journal

def Event.onto (event : Event) (frame : Frame) : Frame :=
  match event with
  | .declared symbol => frame.declare symbol
  | .narrowed key type => frame.narrow key type

def frameOf (events : List Event) : Frame := events.foldr Event.onto .empty

theorem symbol?_frameOf (events : List Event) (name : String) :
    (frameOf events).symbol? name = events.findSome? (Event.declared? name) := by
  induction events with
  | nil => rfl
  | cons event earlier ih =>
    rw [List.findSome?_cons, ← ih]
    cases event with
    | declared symbol =>
      refine (symbol?_declare (frameOf earlier) name).trans ?_
      rw [Event.declared?]
      split <;> rfl
    | narrowed key type => rfl

theorem typeOf_frameOf (events : List Event) (outer : List Frame) (key : RefKey) :
    typeIn key (frameOf events :: outer) = (events.findSome? (Event.decides key)).getD (typeIn key outer) := by
  induction events with
  | nil => rfl
  | cons event earlier ih =>
    rw [List.findSome?_cons]
    cases event with
    | declared symbol =>
      refine (typeOf_declared ⟨frameOf earlier, outer⟩ symbol key).trans ?_
      rw [Event.decides, typeOf, frames, ih]
      split <;> rfl
    | narrowed known type =>
      refine (@typeOf_narrow ⟨frameOf earlier, outer⟩ key known type).trans ?_
      rw [Event.decides, typeOf, frames, ih]
      split <;> rfl

-- The open blocks and the events in them: the events of a block stand before those of the
-- blocks around it, and are what made it.
inductive Tracks : List Frame → List Entry → Prop
  | outermost : Tracks [] []
  | block {frames : List Frame} {entries : List Entry} (events : List Event) (outer : Tracks frames entries) :
    Tracks (frameOf events :: frames) (events.map (Entry.mk (frames.length + 1)) ++ entries)

namespace Tracks

variable {frames : List Frame} {entries : List Entry} {current : Frame}

theorem depth_le (tracks : Tracks frames entries) : ∀ entry ∈ entries, entry.depth ≤ frames.length := by
  induction tracks with
  | outermost => nofun
  | block events outer ih =>
    intro entry among
    rcases List.mem_append.mp among with here | before
    · obtain ⟨event, _, rfl⟩ := List.mem_map.mp here
      exact Nat.le_refl _
    · exact Nat.le_succ_of_le (ih entry before)

theorem enter (tracks : Tracks frames entries) : Tracks (.empty :: frames) entries := .block [] tracks

theorem note (tracks : Tracks (current :: frames) entries) (event : Event) :
    Tracks (event.onto current :: frames) (⟨frames.length + 1, event⟩ :: entries) := by
  cases tracks with
  | block events outer => exact .block (event :: events) outer

theorem cut (tracks : Tracks frames entries) (depth : Nat) :
    Tracks (frames.drop (frames.length - depth)) (entries.filter fun entry => entry.depth ≤ depth) := by
  induction tracks with
  | outermost => rw [List.drop_nil]; exact .outermost
  | @block frames entries events outer ih =>
    by_cases open' : frames.length + 1 ≤ depth
    · have whole := Tracks.block events outer
      have all : (events.map (Entry.mk (frames.length + 1)) ++ entries).filter (fun entry => entry.depth ≤ depth) =
          events.map (Entry.mk (frames.length + 1)) ++ entries :=
        List.filter_eq_self.mpr fun entry among => decide_eq_true (Nat.le_trans (whole.depth_le entry among) open')
      rw [List.length_cons, Nat.sub_eq_zero_of_le open', List.drop_zero, all]
      exact whole
    · have dropped : (events.map (Entry.mk (frames.length + 1))).filter (fun entry => entry.depth ≤ depth) = [] := by
        refine List.filter_eq_nil_iff.mpr fun entry here => ?_
        obtain ⟨event, _, rfl⟩ := List.mem_map.mp here
        simpa using open'
      have one_more : frames.length + 1 - depth = (frames.length - depth) + 1 := by omega
      rw [List.length_cons, one_more, List.drop_succ_cons, List.filter_append, dropped, List.nil_append]
      exact ih

theorem symbol? (tracks : Tracks frames entries) (name : String) :
    frames.findSome? (fun frame => frame.symbol? name) = entries.findSome? fun entry => entry.event.declared? name := by
  induction tracks with
  | outermost => rfl
  | block events outer ih =>
    rw [List.findSome?_cons, symbol?_frameOf, List.findSome?_append, List.findSome?_map, ← ih]
    show _ = (events.findSome? (Event.declared? name)).or _
    cases events.findSome? (Event.declared? name) <;> rfl

theorem typeIn_eq (tracks : Tracks frames entries) (key : RefKey) :
    typeIn key frames = (entries.findSome? fun entry => entry.event.decides key).join := by
  induction tracks with
  | outermost => rfl
  | block events outer ih =>
    rw [typeOf_frameOf, ih, List.findSome?_append, List.findSome?_map]
    show _ = ((events.findSome? (Event.decides key)).or _).join
    cases events.findSome? (Event.decides key) <;> rfl

end Tracks

section exit

variable {scope : Scope}

theorem length_frames (scope : Scope) : scope.frames.length = scope.depth := rfl

theorem depth_pos (scope : Scope) : 1 ≤ scope.depth := Nat.le_add_left _ _

theorem frames_leave (inner : 1 < scope.depth) : scope.leave.frames = scope.frames.drop 1 := by
  obtain ⟨current, outer⟩ := scope
  cases outer with
  | nil => exact absurd inner (Nat.lt_irrefl 1)
  | cons frame outer => rfl

theorem frames_repeat_leave {times : Nat} (within : times < scope.depth) :
    (Nat.repeat leave times scope).frames = scope.frames.drop times := by
  induction times with
  | zero => rfl
  | succ times ih =>
    have frames := ih (Nat.lt_of_succ_lt within)
    have depth : (Nat.repeat leave times scope).depth = scope.depth - times := by
      rw [← length_frames, frames, List.length_drop, length_frames]
    rw [Nat.repeat, frames_leave (by omega), frames, List.drop_drop]

-- Only as many blocks are closed as were opened behind the mark, and never the outermost.
theorem frames_exitTo (scope : Scope) (mark : Nat) :
    (scope.exitTo mark).frames = scope.frames.drop (scope.depth - min scope.depth (max mark 1)) := by
  have positive := scope.depth_pos
  rw [exitTo, frames_repeat_leave (by omega)]
  congr 1
  omega

theorem depth_exitTo (scope : Scope) (mark : Nat) : (scope.exitTo mark).depth = min scope.depth (max mark 1) := by
  rw [← length_frames, frames_exitTo, List.length_drop, length_frames]
  omega

end exit

structure Follows (scope : Scope) (journal : Journal) : Prop where
  depth : scope.depth = journal.depth
  tracks : Tracks scope.frames journal.entries

namespace Follows

variable {scope : Scope} {journal : Journal}

theorem empty : Follows .empty .empty := ⟨rfl, .block [] .outermost⟩

theorem note (follows : Follows scope journal) (event : Event) :
    Follows ⟨event.onto scope.current, scope.outer⟩ (journal.note event) := by
  refine ⟨follows.depth, ?_⟩
  rw [Journal.note, ← follows.depth]
  exact follows.tracks.note event

theorem symbol?_current (follows : Follows scope journal) (name : String) :
    (scope.current.symbol? name).isSome = journal.declaresHere name := by
  obtain ⟨current, outer⟩ := scope
  obtain ⟨depth, entries⟩ := journal
  obtain ⟨rfl, tracks⟩ := follows
  obtain _ | @⟨outer, before, events, tracks⟩ := tracks
  show ((frameOf events).symbol? name).isSome =
    (⟨outer.length + 1, events.map (Entry.mk (outer.length + 1)) ++ before⟩ : Journal).declaresHere name
  rw [symbol?_frameOf, Bool.eq_iff_iff, Journal.declaresHere_iff, List.isSome_findSome?, List.any_eq_true]
  constructor
  · rintro ⟨event, among, declares⟩
    obtain ⟨symbol, named, rfl⟩ := Event.isSome_declared?.mp declares
    exact ⟨symbol, named, List.mem_append_left _ (List.mem_map_of_mem among)⟩
  · rintro ⟨symbol, named, among⟩
    rcases List.mem_append.mp among with here | before
    · obtain ⟨event, among, same⟩ := List.mem_map.mp here
      cases same
      exact ⟨_, among, Event.isSome_declared?.mpr ⟨symbol, named, rfl⟩⟩
    · exact absurd (tracks.depth_le _ before) (Nat.not_succ_le_self _)

theorem perform (follows : Follows scope journal) (call : Call) : Follows (scope.perform call) (journal.record call) := by
  cases call with
  | declare symbol =>
    rw [Scope.perform, Scope.declare, Journal.record, ← follows.symbol?_current]
    cases scope.current.symbol? symbol.name with
    | some earlier => exact follows
    | none => exact follows.note (.declared symbol)
  | narrow key type => exact follows.note (.narrowed key type)
  | enter => exact ⟨congrArg (· + 1) follows.depth, follows.tracks.enter⟩
  | exitTo mark =>
    refine ⟨?_, ?_⟩
    · rw [Scope.perform, depth_exitTo, follows.depth]
      rfl
    · rw [Scope.perform, frames_exitTo, Journal.record, ← follows.depth]
      exact follows.tracks.cut _

theorem run (follows : Follows scope journal) (calls : List Call) :
    Follows (calls.foldl Scope.perform scope) (calls.foldl Journal.record journal) := by
  induction calls generalizing scope journal with
  | nil => exact follows
  | cons call later ih => exact ih (follows.perform call)

theorem of_after (calls : List Call) : Follows (after calls) (Journal.of calls) := empty.run calls

end Follows

def Entry.outlasts (later : List Call) (entry : Entry) : Bool :=
  later.all fun call => match call with
    | .exitTo mark => entry.depth ≤ max mark 1
    | _ => true

section lasting

variable {scope : Scope} {journal : Journal}

theorem record_lasting (follows : Follows scope journal) (call : Call) :
    ∃ newer, (journal.record call).entries = newer ++ journal.entries.filter (Entry.outlasts [call]) := by
  have bounded := follows.tracks.depth_le
  rw [length_frames, follows.depth] at bounded
  cases call with
  | declare symbol =>
    have kept : journal.entries.filter (Entry.outlasts [.declare symbol]) = journal.entries :=
      List.filter_eq_self.mpr fun _ _ => rfl
    rw [Journal.record, kept]
    split
    · exact ⟨[], rfl⟩
    · exact ⟨[_], rfl⟩
  | narrow key type => exact ⟨[_], congrArg _ (List.filter_eq_self.mpr fun _ _ => rfl).symm⟩
  | enter => exact ⟨[], (List.filter_eq_self.mpr fun _ _ => rfl).symm⟩
  | exitTo mark =>
    refine ⟨[], List.filter_congr fun entry among => ?_⟩
    have within := bounded entry among
    simp only [Entry.outlasts, List.all_cons, List.all_nil, Bool.and_true]
    exact decide_eq_decide.mpr (by omega)

theorem run_lasting (follows : Follows scope journal) (later : List Call) :
    ∃ newer, (later.foldl Journal.record journal).entries = newer ++ journal.entries.filter (Entry.outlasts later) := by
  induction later generalizing scope journal with
  | nil => exact ⟨[], (List.filter_eq_self.mpr fun _ _ => rfl).symm⟩
  | cons call later ih =>
    obtain ⟨newer, first⟩ := record_lasting follows call
    obtain ⟨newest, rest⟩ := ih (follows.perform call)
    refine ⟨newest ++ newer.filter (Entry.outlasts later), ?_⟩
    rw [List.foldl_cons, rest, first, List.filter_append, List.filter_filter, List.append_assoc]
    congr 2
    refine List.filter_congr fun entry _ => ?_
    simp only [Entry.outlasts, List.all_cons, List.all_nil, Bool.and_true]
    exact Bool.and_comm _ _

end lasting

structure Shows (scope : Scope) (journal : Journal) : Prop where
  depth : scope.depth = journal.depth
  positive : 1 ≤ scope.depth
  exits : ∀ mark, (scope.exitTo mark).depth ≤ scope.depth
  fails : ∀ symbol : Symbol, (∃ fault, scope.declare symbol = .error fault) ↔
    ∃ earlier : Symbol, earlier.name = symbol.name ∧ ⟨scope.depth, .declared earlier⟩ ∈ journal.entries
  unchanged : ∀ symbol fault, scope.declare symbol = .error fault →
    fault = .duplicateDeclaration symbol.name ∧ scope.perform (.declare symbol) = scope
  lookup : ∀ name, scope.lookup name =
    match journal.entries.findSome? fun entry => entry.event.declared? name with
    | some symbol => .ok symbol
    | none => .error (.undefinedName name)
  typeOf : ∀ key, scope.typeOf key = (journal.entries.findSome? fun entry => entry.event.decides key).join

theorem Follows.shows {scope : Scope} {journal : Journal} (follows : Follows scope journal) : Shows scope journal where
  depth := follows.depth
  positive := scope.depth_pos
  exits mark := depth_exitTo scope mark ▸ Nat.min_le_left _ _
  fails symbol := by
    rw [follows.depth, ← Journal.declaresHere_iff, ← follows.symbol?_current, declare]
    cases scope.current.symbol? symbol.name with
    | some earlier => exact iff_of_true ⟨_, rfl⟩ rfl
    | none =>
      refine iff_of_false ?_ Bool.false_ne_true
      rintro ⟨fault, failed⟩
      cases failed
  unchanged symbol fault failed := by
    rw [Scope.perform, failed]
    refine ⟨?_, rfl⟩
    unfold declare at failed
    split at failed <;> cases failed
    rfl
  lookup name := by
    have found := follows.tracks.symbol? name
    unfold Scope.lookup
    cases declared : journal.entries.findSome? fun entry => entry.event.declared? name with
    | some symbol => simp only [found, declared]
    | none => simp only [found, declared]
  typeOf := follows.tracks.typeIn_eq

-- A scope is its journal, whatever calls were made. An entry is in the journal for as long
-- as its block has not been closed since, however the blocks around it come and go.
theorem after_shows_journal (calls : List Call) : Shows (after calls) (Journal.of calls) ∧
    ∀ later, ∃ newer, (Journal.of (calls ++ later)).entries =
      newer ++ (Journal.of calls).entries.filter (Entry.outlasts later) := by
  have follows := Follows.of_after calls
  refine ⟨follows.shows, fun later => ?_⟩
  rw [Journal.of, List.foldl_append]
  exact run_lasting follows later

-- The mark 2 is of a block that was closed by the mark 1. Given up again in another block
-- of that depth it closes nothing, and what is known there stays known.
example : (after [.declare ⟨"x", .localBinding, .int⟩, .enter, .enter, .exitTo 1, .enter,
    .narrow (.bare "x") .bool, .exitTo 2]).typeOf (.bare "x") = some .bool := by
  decide +kernel

end Scope
end TypedTemplate
