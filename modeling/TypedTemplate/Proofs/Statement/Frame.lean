import TypedTemplate.Proofs.Expr.Cause
import TypedTemplate.Proofs.Statement.Accounts
import TypedTemplate.Proofs.Statement.Narrowing

namespace TypedTemplate

namespace Frame

def names (frame : Frame) : List String := frame.symbols.map Symbol.name

-- What declaring some names does to a block. Those that it did not have are added, each
-- once, and what was known of references below them is forgotten; that is all.
structure Grows (before after : Frame) (declared : List String) : Prop where
  symbols : ∃ added : List Symbol, after.symbols = added ++ before.symbols ∧ (added.map Symbol.name).Nodup ∧
    ∀ name, name ∈ added.map Symbol.name ↔ name ∈ declared ∧ name ∉ before.names
  narrowed : after.narrowed = before.narrowed.filter fun entry => entry.1.root ∉ declared ∨ entry.1.root ∈ before.names

theorem mem_names {frame : Frame} {name : String} : name ∈ frame.names ↔ ∃ symbol, frame.symbol? name = some symbol := by
  rw [symbol?, ← Option.isSome_iff_exists, List.find?_isSome, names, List.mem_map]
  simp only [beq_iff_eq]

namespace Grows

variable {before middle after : Frame} {declared later : List String}

theorem refl (frame : Frame) : frame.Grows frame [] where
  symbols := ⟨[], rfl, .nil, by simp⟩
  narrowed := by simp

theorem mem_names (grows : before.Grows after declared) {name : String} :
    name ∈ after.names ↔ name ∈ declared ∨ name ∈ before.names := by
  obtain ⟨added, symbols, _, fresh⟩ := grows.symbols
  rw [names, symbols, List.map_append, List.mem_append, fresh, ← names]
  tauto

theorem trans (first : before.Grows middle declared) (second : middle.Grows after later) :
    before.Grows after (declared ++ later) where
  symbols := by
    obtain ⟨added, symbols, distinct, fresh⟩ := first.symbols
    obtain ⟨added', symbols', distinct', fresh'⟩ := second.symbols
    refine ⟨added' ++ added, by rw [symbols', symbols, List.append_assoc], ?_, fun name => ?_⟩
    · rw [List.map_append]
      refine distinct'.append distinct fun name new old => ?_
      exact ((fresh' name).mp new).2 (first.mem_names.mpr (.inl ((fresh name).mp old).1))
    · rw [List.map_append, List.mem_append, fresh, fresh', first.mem_names, List.mem_append]
      tauto
  narrowed := by
    rw [second.narrowed, first.narrowed, List.filter_filter]
    refine List.filter_congr fun entry _ => ?_
    rw [← Bool.decide_and, decide_eq_decide, first.mem_names, List.mem_append]
    tauto

theorem symbol?_eq (grows : before.Grows after declared) {name : String} {symbol : Symbol}
    (found : before.symbol? name = some symbol) : after.symbol? name = some symbol := by
  obtain ⟨added, symbols, _, fresh⟩ := grows.symbols
  have absent : added.find? (fun symbol => symbol.name == name) = none := by
    refine List.find?_eq_none.mpr fun other listed same => ?_
    have present : name ∈ added.map Symbol.name := List.mem_map.mpr ⟨other, listed, eq_of_beq same⟩
    exact ((fresh name).mp present).2 (Frame.mem_names.mpr ⟨symbol, found⟩)
  rw [symbol?, symbols, List.find?_append, absent]
  exact found

end Grows

theorem grows_declare {frame : Frame} {symbol : Symbol} (fresh : symbol.name ∉ frame.names) :
    frame.Grows (frame.declare symbol) [symbol.name] where
  symbols := by
    refine ⟨[symbol], rfl, List.nodup_singleton _, fun name => ?_⟩
    rw [List.map_singleton, List.mem_singleton]
    exact ⟨fun same => ⟨same, same ▸ fresh⟩, And.left⟩
  narrowed := by
    refine List.filter_congr fun entry _ => ?_
    by_cases same : entry.1.root = symbol.name <;> simp [same, fresh]

theorem grows_of_mem {frame : Frame} {name : String} (taken : name ∈ frame.names) : frame.Grows frame [name] where
  symbols := by
    refine ⟨[], rfl, .nil, fun other => ?_⟩
    rw [List.mem_singleton]
    exact ⟨nofun, fun ⟨same, absent⟩ => absurd (same ▸ taken) absent⟩
  narrowed := by
    refine (List.filter_eq_self.mpr fun entry _ => ?_).symm
    by_cases same : entry.1.root = name <;> simp [same, taken]

end Frame

namespace Statement

theorem declare_scope (scope : Scope) (symbol : Symbol) (position : Position) (log : Log) :
    (declare scope symbol position log).scope.outer = scope.outer ∧
      scope.current.Grows (declare scope symbol position log).scope.current [symbol.name] := by
  by_cases taken : scope.declaresHere symbol.name
  · rw [declare, Scope.declare_error taken]
    exact ⟨rfl, Frame.grows_of_mem (Frame.mem_names.mpr taken)⟩
  · rw [declare, Scope.declare_eq taken]
    exact ⟨rfl, Frame.grows_declare fun listed => taken (Frame.mem_names.mp listed)⟩

theorem openLoop_outer (context : Context) (scope : Scope) (name : String) (iterable : Expr) (span : Span) :
    (openLoop context scope name iterable span).scope.outer = scope.frames := by
  simp only [openLoop, declare_scope scope.enter]
  rfl

theorem check_scope (context : Context) (statement : Statement) (scope : Scope) (silent : statement.declared? = none) :
    (statement.check context scope).scope = scope := by
  cases statement with
  | text => rw [check]
  | print => rw [check]
  | choose => rw [check_choose]
  | foreach => rw [check_foreach]
  | param => cases silent
  | letValue => cases silent
  | letBlock => cases silent

theorem check_grows (context : Context) (statement : Statement) (scope : Scope) :
    (statement.check context scope).scope.outer = scope.outer ∧
      scope.current.Grows (statement.check context scope).scope.current statement.declared?.toList := by
  cases declared : statement.declared? with
  | none =>
    rw [check_scope context statement scope declared]
    exact ⟨rfl, .refl _⟩
  | some name =>
    cases statement with
    | param =>
      cases declared
      rw [check]
      split <;> exact declare_scope ..
    | letValue | letBlock =>
      cases declared
      rw [check]
      exact declare_scope ..
    | _ => cases declared

theorem checkBlock_grows (context : Context) (body : List Statement) (scope : Scope) :
    (checkBlock context scope body).scope.outer = scope.outer ∧
      scope.current.Grows (checkBlock context scope body).scope.current (body.filterMap declared?) := by
  induction body generalizing scope with
  | nil => exact ⟨rfl, .refl _⟩
  | cons statement rest ih =>
    obtain ⟨outer, first⟩ := check_grows context statement scope
    obtain ⟨outer', others⟩ := ih (statement.check context scope).scope
    have declared : (statement :: rest).filterMap declared? = statement.declared?.toList ++ rest.filterMap declared? := by
      rw [List.filterMap_cons]
      cases statement.declared? <;> rfl
    rw [checkBlock, declared]
    exact ⟨outer'.trans outer, first.trans others⟩

theorem checkBranches_outer (context : Context) (branches : List (Branch (List Statement))) (scope : Scope) :
    (checkBranches context scope branches).scope.outer = scope.outer := by
  induction branches generalizing scope with
  | nil => rfl
  | cons branch rest ih =>
    rw [checkBranches]
    exact (ih _).trans (Scope.assume_outer _ _)

-- The declarations of a statement, and of those inside it, that find their name taken in
-- the block that they stand in. Only the statement itself stands among the given names.
def again (taken : List String) (name : String) (span : Span) : List Diagnostic :=
  if name ∈ taken then [⟨.duplicateDeclaration name, span.start, none⟩] else []

mutual
def redeclared (taken : List String) : Statement → List Diagnostic
  | text .. | print .. => []
  | param name _ _ span | letValue name _ span => again taken name span
  | letBlock name body span => bodyRedeclared [] body ++ again taken name span
  | choose branches none _ => branchRedeclared branches
  | choose branches (some body) _ => branchRedeclared branches ++ bodyRedeclared [] body
  | foreach var _ body none _ => bodyRedeclared [var] body
  | foreach var _ body (some ifEmpty) _ => bodyRedeclared [var] body ++ bodyRedeclared [] ifEmpty

def bodyRedeclared (taken : List String) : List Statement → List Diagnostic
  | [] => []
  | statement :: rest => statement.redeclared taken ++ bodyRedeclared (statement.declared?.toList ++ taken) rest

def branchRedeclared : List (Branch (List Statement)) → List Diagnostic
  | [] => []
  | ⟨_, body, _⟩ :: rest => bodyRedeclared [] body ++ branchRedeclared rest
end

def optionalRedeclared : Option (List Statement) → List Diagnostic
  | none => []
  | some body => bodyRedeclared [] body

theorem redeclared_choose (taken : List String) (branches : List (Branch (List Statement)))
    (otherwise : Option (List Statement)) (span : Span) :
    (choose branches otherwise span).redeclared taken = branchRedeclared branches ++ optionalRedeclared otherwise := by
  cases otherwise <;> simp [redeclared, optionalRedeclared]

theorem redeclared_foreach (taken : List String) (var : String) (iterable : Expr) (body : List Statement)
    (ifEmpty : Option (List Statement)) (span : Span) :
    (foreach var iterable body ifEmpty span).redeclared taken =
      bodyRedeclared [var] body ++ optionalRedeclared ifEmpty := by
  cases ifEmpty <;> simp [redeclared, optionalRedeclared]

end Statement

def Fault.redeclares : Fault → Bool
  | .duplicateDeclaration _ => true
  | _ => false

theorem Fault.not_redeclares {fault : Fault} (found : fault.ofExpr) : fault.redeclares = false := by
  cases fault with
  | duplicateDeclaration name => cases found
  | _ => rfl

namespace Log

def redeclared (log : Log) : List Diagnostic := log.diagnostics.filter fun diagnostic => diagnostic.fault.redeclares

theorem redeclared_append (a b : Log) : (a ++ b).redeclared = a.redeclared ++ b.redeclared := List.filter_append ..

end Log

namespace Statement

open Log (redeclared_append)

theorem infer_redeclared (context : Context) (scope : Scope) (expr : Expr) :
    (expr.infer context scope).log.redeclared = [] := by
  refine List.filter_eq_nil_iff.mpr fun diagnostic listed => ?_
  obtain ⟨term, _, fault, found, same⟩ := Expr.infer_blames context expr scope diagnostic listed
  rw [same]
  exact Bool.eq_false_iff.mp (Fault.not_redeclares found)

variable {taken : List String} {scope : Scope} (same : ∀ name, name ∈ taken ↔ scope.declaresHere name)

include same in
theorem declare_redeclared (symbol : Symbol) (span : Span) (log : Log) :
    (declare scope symbol span.start log).log.redeclared = log.redeclared ++ again taken symbol.name span := by
  unfold again declare
  by_cases here : scope.declaresHere symbol.name
  · rw [if_pos ((same _).mpr here), Scope.declare_error here, redeclared_append]
    rfl
  · rw [if_neg fun listed => here ((same _).mp listed), Scope.declare_eq here, List.append_nil]

theorem loopVar_redeclared (iterable : Expr) (type : Ty) : Log.redeclared ⟨[], (loopVar iterable type).2⟩ = [] := by
  unfold loopVar
  split
  · rfl
  · rename_i fault failed
    obtain ⟨_, operands, rfl⟩ := element_error failed
    rfl

omit same

theorem declaresHere_declare (scope : Scope) (symbol : Symbol) (position : Position) (log : Log) (name : String) :
    (declare scope symbol position log).scope.declaresHere name ↔ name = symbol.name ∨ scope.declaresHere name := by
  have grows := (declare_scope scope symbol position log).2
  rw [Scope.declaresHere, Scope.declaresHere, ← Frame.mem_names, ← Frame.mem_names, grows.mem_names, List.mem_singleton]

theorem nothing_here {scope : Scope} (fresh : ∀ name, ¬scope.declaresHere name) (name : String) :
    name ∈ [] ↔ scope.declaresHere name := iff_of_false List.not_mem_nil (fresh name)

theorem openLoop_redeclared (context : Context) (scope : Scope) (var : String) (iterable : Expr) (span : Span) :
    (openLoop context scope var iterable span).log.redeclared = [] ∧
      ∀ name, name ∈ [var] ↔ (openLoop context scope var iterable span).scope.declaresHere name := by
  refine ⟨?_, fun name => ?_⟩
  · rw [openLoop, redeclared_append, infer_redeclared,
      declare_redeclared (nothing_here Scope.not_declaresHere_enter), loopVar_redeclared]
    rfl
  · rw [openLoop, declaresHere_declare, List.mem_singleton]
    exact (or_iff_left (Scope.not_declaresHere_enter name)).symm

theorem mem_taken {taken : List String} {scope : Scope} (same : ∀ name, name ∈ taken ↔ scope.declaresHere name)
    (context : Context) (statement : Statement) (name : String) : name ∈ statement.declared?.toList ++ taken ↔
      (statement.check context scope).scope.declaresHere name := by
  have grows := (check_grows context statement scope).2
  rw [List.mem_append, same, Scope.declaresHere, Scope.declaresHere, ← Frame.mem_names, ← Frame.mem_names, grows.mem_names]

mutual
theorem check_redeclared (context : Context) : ∀ (statement : Statement) {taken : List String} {scope : Scope},
    (∀ name, name ∈ taken ↔ scope.declaresHere name) →
    (statement.check context scope).log.redeclared = statement.redeclared taken
  | text .., _, _, _ => by rw [check, redeclared]; rfl
  | print expr .., _, scope, _ => by rw [check, redeclared, infer_redeclared]
  | param name kind typeExpr span, _, scope, same => by
    rw [check, redeclared]
    split
    · rw [declare_redeclared same]
      rfl
    · rename_i diagnostic failed
      rw [declare_redeclared same]
      obtain ⟨demand, _, rfl⟩ := TypeExpr.resolve_error failed
      cases demand <;> rfl
  | letValue name value span, _, scope, same => by
    rw [check, redeclared, declare_redeclared same, infer_redeclared]
    rfl
  | letBlock name body span, _, scope, same => by
    rw [check, redeclared, declare_redeclared same, checkBlock_redeclared context body
      (nothing_here Scope.not_declaresHere_enter)]
  | choose branches otherwise span, _, scope, _ => by
    rw [check_choose, redeclared_choose, redeclared_append, checkBranches_redeclared context branches,
      checkOptional_redeclared context otherwise]
  | foreach var iterable body ifEmpty span, _, scope, _ => by
    obtain ⟨opened, inside⟩ := openLoop_redeclared context scope var iterable span
    rw [check_foreach, redeclared_foreach, redeclared_append, redeclared_append, opened,
      checkBlock_redeclared context body inside, checkOptional_redeclared context ifEmpty]
    rfl

theorem checkBlock_redeclared (context : Context) : ∀ (body : List Statement) {taken : List String} {scope : Scope},
    (∀ name, name ∈ taken ↔ scope.declaresHere name) →
    (checkBlock context scope body).log.redeclared = bodyRedeclared taken body
  | [], _, _, _ => rfl
  | statement :: rest, _, scope, same => by
    rw [checkBlock, bodyRedeclared, redeclared_append, check_redeclared context statement same,
      checkBlock_redeclared context rest (mem_taken same context statement)]

theorem checkBranches_redeclared (context : Context) : ∀ (branches : List (Branch (List Statement))) {scope : Scope},
    (checkBranches context scope branches).log.redeclared = branchRedeclared branches
  | [], _ => rfl
  | ⟨condition, body, _⟩ :: rest, scope => by
    rw [checkBranches, branchRedeclared, redeclared_append, redeclared_append, infer_redeclared,
      checkBlock_redeclared context body (nothing_here (Scope.not_declaresHere_under _)),
      checkBranches_redeclared context rest]
    rfl

theorem checkOptional_redeclared (context : Context) : ∀ (body : Option (List Statement)) {scope : Scope},
    (checkOptional context scope body).redeclared = optionalRedeclared body
  | none, _ => rfl
  | some body, _ => checkBlock_redeclared context body (nothing_here Scope.not_declaresHere_enter)
end

end Statement
end TypedTemplate
