import TypedTemplate.Proofs.Expr.Numbers
import TypedTemplate.Proofs.Ty.Operation

namespace TypedTemplate

-- Whether a fault lies in the use of an expression by what stands around it, and not in
-- the expression itself.
def Fault.inUse : Fault → Bool
  | .argumentTypeMismatch _ _ | .duplicateKey _ => true
  | .badOperandType operator _ => operator == "foreach"
  | _ => false

def Fault.isOwn : Fault → Bool
  | .undefinedName _ | .invalidKeyType _ _ | .undefinedField _ _ | .undefinedFunction _ | .unexpectedArguments _ _
  | .missingArguments _ _ => true
  | .badOperandType operator _ => operator != "foreach"
  | _ => false

theorem Fault.not_inUse {fault : Fault} (own : fault.isOwn) : fault.inUse = false := by
  cases fault with
  | badOperandType operator operands => simpa [isOwn, inUse] using own
  | argumentTypeMismatch expected received => cases own
  | duplicateKey key => cases own
  | _ => rfl

-- The reasons for which an expression is blamed. Its own rule failed, and it has the
-- unknown type; or it has a type that does not fit its use. In the latter case a call or
-- map literal around it fails with it, while a loop goes on.
inductive Expr.Blamed (recorded : Nat → Ty → Prop) (terms iterables : List Expr) : Fault → Expr → Prop where
  | itself {fault : Fault} {expr : Expr} (own : fault.inUse = false) (failed : recorded expr.id .unknown) :
    Blamed recorded terms iterables fault expr
  | argument {node : Node} {name expected received : String} {args : List Expr} {arg : Expr} {type : Ty}
    (inside : .call node name args ∈ terms) (listed : arg ∈ args) (failed : recorded node.id .unknown)
    (typed : recorded arg.id type) (known : type ≠ .unknown) :
    Blamed recorded terms iterables (.argumentTypeMismatch expected received) arg
  | key {node : Node} {name : String} {entries : List (Expr × Expr)} {key value : Expr} {type : Ty}
    (inside : .map node entries ∈ terms) (listed : (key, value) ∈ entries) (failed : recorded node.id .unknown)
    (typed : recorded key.id type) (known : type ≠ .unknown) :
    Blamed recorded terms iterables (.duplicateKey name) key
  | iterable {operands : String} {expr : Expr} {type : Ty} (listed : expr ∈ iterables) (typed : recorded expr.id type)
    (known : type ≠ .unknown) : Blamed recorded terms iterables (.badOperandType "foreach" operands) expr

theorem Expr.Blamed.imp {recorded recorded' : Nat → Ty → Prop} {terms terms' iterables : List Expr} {fault : Fault}
    {expr : Expr} (blamed : expr.Blamed recorded terms iterables fault)
    (still : ∀ id type, recorded id type → recorded' id type) (within : terms ⊆ terms') :
    expr.Blamed recorded' terms' iterables fault := by
  cases blamed with
  | itself own failed => exact .itself own (still _ _ failed)
  | argument inside listed failed typed known =>
    exact .argument (within inside) listed (still _ _ failed) (still _ _ typed) known
  | key inside listed failed typed known => exact .key (within inside) listed (still _ _ failed) (still _ _ typed) known
  | iterable listed typed known => exact .iterable listed (still _ _ typed) known

namespace Log

def blamed (log : Log) : List Nat := log.diagnostics.filterMap Diagnostic.node

theorem blamed_append (a b : Log) : (a ++ b).blamed = a.blamed ++ b.blamed := List.filterMap_append

def Recorded (log : Log) (id : Nat) (type : Ty) : Prop := (id, type) ∈ log.types

def Explains (log : Log) (terms iterables : List Expr) (diagnostic : Diagnostic) : Prop :=
  ∀ id, diagnostic.node = some id → ∃ expr ∈ terms, expr.id = id ∧ diagnostic.position = expr.span.start ∧
    expr.Blamed log.Recorded terms iterables diagnostic.fault

structure Accounts (log : Log) (terms iterables : List Expr) : Prop where
  distinct : log.blamed.Nodup
  explained : ∀ diagnostic ∈ log.diagnostics, log.Explains terms iterables diagnostic

structure Clears (log : Log) (expr : Expr) (type : Ty) : Prop where
  typed : log.Recorded expr.id type
  clear : type ≠ .unknown → expr.id ∉ log.blamed

section

variable {log log' : Log} {terms terms' iterables : List Expr} {diagnostic : Diagnostic} {expr : Expr} {type : Ty}

theorem Explains.left (explained : log.Explains terms iterables diagnostic) :
    (log ++ log').Explains (terms ++ terms') iterables diagnostic := by
  intro id about
  obtain ⟨expr, inside, same, position, blamed⟩ := explained id about
  refine ⟨expr, List.mem_append_left _ inside, same, position, blamed.imp ?_ (List.subset_append_left _ _)⟩
  exact fun id type recorded => mem_types_append.mpr (.inl recorded)

theorem Explains.right (explained : log'.Explains terms' iterables diagnostic) :
    (log ++ log').Explains (terms ++ terms') iterables diagnostic := by
  intro id about
  obtain ⟨expr, inside, same, position, blamed⟩ := explained id about
  refine ⟨expr, List.mem_append_right _ inside, same, position, blamed.imp ?_ (List.subset_append_right _ _)⟩
  exact fun id type recorded => mem_types_append.mpr (.inr recorded)

namespace Accounts

theorem empty : Log.empty.Accounts [] iterables := ⟨.nil, nofun⟩

theorem mem_of_blamed (accounts : log.Accounts terms iterables) {id : Nat} (blamed : id ∈ log.blamed) :
    id ∈ terms.map Expr.id := by
  obtain ⟨diagnostic, listed, about⟩ := List.mem_filterMap.mp blamed
  obtain ⟨expr, inside, same, _⟩ := accounts.explained diagnostic listed id about
  exact List.mem_map.mpr ⟨expr, inside, same⟩

theorem append (first : log.Accounts terms iterables) (second : log'.Accounts terms' iterables)
    (apart : (terms.map Expr.id).Disjoint (terms'.map Expr.id)) : (log ++ log').Accounts (terms ++ terms') iterables where
  distinct := by
    rw [blamed_append]
    refine first.distinct.append second.distinct fun id present present' => ?_
    exact apart (first.mem_of_blamed present) (second.mem_of_blamed present')
  explained := by
    intro diagnostic listed
    rcases List.mem_append.mp listed with earlier | later
    · exact (first.explained diagnostic earlier).left
    · exact (second.explained diagnostic later).right

theorem report {reported : List Diagnostic} (accounts : log.Accounts terms iterables)
    (nobody : ∀ diagnostic ∈ reported, diagnostic.node = none) :
    (log ++ ⟨[], reported⟩).Accounts terms iterables := by
  have silent : reported.filterMap Diagnostic.node = [] := List.filterMap_eq_nil_iff.mpr nobody
  have other : Log.Accounts ⟨[], reported⟩ [] iterables := by
    refine ⟨by simp [blamed, silent], fun diagnostic listed id about => ?_⟩
    rw [nobody diagnostic listed] at about
    cases about
  simpa using accounts.append other (by simp)

end Accounts

namespace Clears

theorem left (clears : log.Clears expr type) (fresh : expr.id ∉ log'.blamed) : (log ++ log').Clears expr type where
  typed := mem_types_append.mpr (.inl clears.typed)
  clear known := by
    rw [blamed_append, List.mem_append, not_or]
    exact ⟨clears.clear known, fresh⟩

theorem right (clears : log'.Clears expr type) (fresh : expr.id ∉ log.blamed) : (log ++ log').Clears expr type where
  typed := mem_types_append.mpr (.inr clears.typed)
  clear known := by
    rw [blamed_append, List.mem_append, not_or]
    exact ⟨fresh, clears.clear known⟩

end Clears
end
end Log

namespace Ty

theorem badOperands_own {operator : String} (other : operator ≠ "foreach") (operands : List Ty) :
    (badOperands operator operands).isOwn := bne_iff_ne.mpr other

theorem indexSymbol_ne_foreach (key : IndexKey) : indexSymbol key ≠ "foreach" := by
  cases key <;> simp [indexSymbol]

mutual
theorem index_own {key : IndexKey} : ∀ {type : Ty} {fault : Fault}, index key type = .error fault → fault.isOwn
  | unknown, fault, failed => by cases failed
  | null, fault, failed | bool, fault, failed | int, fault, failed | float, fault, failed | string, fault, failed => by
    cases failed
    exact badOperands_own (indexSymbol_ne_foreach key) _
  | list element, fault, failed => by
    rw [index] at failed
    unfold listIndex at failed
    split at failed
    · split at failed <;> cases failed
      rfl
    · cases failed
    · cases failed
      rfl
  | map keyType value, fault, failed => by
    rw [index] at failed
    unfold mapIndex at failed
    split at failed
    all_goals
      split at failed <;> cases failed
      rfl
  | record fields, fault, failed => by
    rw [index] at failed
    unfold recordIndex at failed
    split at failed
    · split at failed <;> cases failed
      rfl
    · cases failed
      rfl
  | union members, fault, failed => by
    rw [index] at failed
    cases each : indexMembers key members with
    | ok types => rw [each] at failed; cases failed
    | error found =>
      rw [each] at failed
      cases failed
      exact indexMembers_own each

theorem indexMembers_own {key : IndexKey} : ∀ {members : List Ty} {fault : Fault},
    indexMembers key members = .error fault → fault.isOwn
  | [], fault, failed => by cases failed
  | member :: rest, fault, failed => by
    rw [indexMembers] at failed
    split at failed
    · exact indexMembers_own failed
    split at failed
    · rename_i found
      cases failed
      exact index_own found
    · cases each : indexMembers key rest with
      | ok types => rw [each] at failed; cases failed
      | error found =>
        rw [each] at failed
        cases failed
        exact indexMembers_own each
end

theorem arithmetic_own {operator : BinaryOperator} {a b : Ty} {fault : Fault} (failed : arithmetic operator a b = .error fault) :
    fault.isOwn := by
  rw [arithmetic_eq] at failed
  split at failed
  · cases failed
  split at failed
  · cases failed
  split at failed
  · cases failed
  · cases failed
    exact badOperands_own (by cases operator <;> decide) _

theorem plus_own {a b : Ty} {fault : Fault} (failed : plus a b = .error fault) : fault.isOwn := by
  rw [plus_eq] at failed
  split at failed
  · cases failed
  · exact arithmetic_own failed

theorem negate_own {operand : Ty} {fault : Fault} (failed : negate operand = .error fault) : fault.isOwn := by
  rw [negate_eq] at failed
  split at failed
  · cases failed
  split at failed
  · cases failed
  · cases failed
    exact badOperands_own (by decide) _

end Ty

namespace Expr

open Log

theorem varType_own {scope : Scope} {name : String} {fault : Fault} (failed : varType scope name = .error fault) :
    fault.isOwn := by
  unfold varType at failed
  split at failed
  · cases failed
  · split at failed
    · rename_i found
      cases failed
      unfold Scope.lookup at found
      split at found <;> cases found
      rfl
    · cases failed

theorem access_own {base : Ty} {key : IndexKey} {nullSafe : Bool} {fault : Fault}
    (failed : access base key nullSafe = .error fault) : fault.isOwn := by
  unfold access at failed
  split at failed
  · cases failed
  · split at failed
    · cases failed
    · rename_i found
      cases failed
      exact Ty.index_own found

theorem unaryType_own {modern : Bool} {operator : UnaryOperator} {operand : Ty} {fault : Fault}
    (failed : unaryType modern operator operand = .error fault) : fault.isOwn := by
  cases operator with
  | not => cases failed
  | negate => exact Ty.negate_own failed

theorem binaryType_own {modern : Bool} {operator : BinaryOperator} {left right : Ty} {fault : Fault}
    (failed : binaryType modern operator left right = .error fault) : fault.isOwn := by
  cases operator with
  | plus => exact Ty.plus_own failed
  | minus | times | divide | modulo => exact Ty.arithmetic_own failed
  | _ => cases failed

end Expr

-- An expression has been accounted for: so has every part of it, and none is blamed that
-- has a type unless its use is.
structure Typed.Accounts (typed : Typed) (expr : Expr) (iterables : List Expr) : Prop where
  log : typed.log.Accounts expr.subterms iterables
  clears : typed.log.Clears expr typed.type

namespace Typed.Accounts

variable {parts : Log} {terms iterables : List Expr} {expr : Expr} (accounts : parts.Accounts terms iterables)
  (shape : expr.subterms = terms ++ [expr]) (distinct : expr.ids.Nodup)
include accounts shape distinct

theorem self_fresh : expr.id ∉ parts.blamed := by
  intro blamed
  rw [Expr.ids, shape, List.map_append, List.nodup_append] at distinct
  exact distinct.2.2 _ (accounts.mem_of_blamed blamed) _ (List.mem_singleton_self _) rfl

theorem settle {verdict : Verdict} (sound : verdict.type ≠ .unknown → verdict.diagnostics = [])
    (once : (verdict.diagnostics.filterMap Diagnostic.node).Nodup)
    (fresh : ∀ id ∈ verdict.diagnostics.filterMap Diagnostic.node, id ∉ parts.blamed)
    (explained : ∀ diagnostic ∈ verdict.diagnostics,
      (Expr.settle expr.node parts verdict).log.Explains expr.subterms iterables diagnostic) :
    (Expr.settle expr.node parts verdict).Accounts expr iterables where
  log := by
    refine ⟨?_, fun diagnostic listed => ?_⟩
    · show (parts ++ _ : Log).blamed.Nodup
      rw [Log.blamed_append]
      exact accounts.distinct.append once fun id present present' => fresh id present' present
    · rcases List.mem_append.mp listed with earlier | own
      · rw [shape]
        exact (accounts.explained diagnostic earlier).left
      · exact explained diagnostic own
  clears := by
    refine ⟨List.mem_cons_self, fun known => ?_⟩
    have silent : Log.blamed ⟨[(expr.id, verdict.type)], verdict.diagnostics⟩ = [] := by
      rw [sound known]
      rfl
    show expr.id ∉ (parts ++ ⟨[(expr.id, verdict.type)], verdict.diagnostics⟩ : Log).blamed
    rw [Log.blamed_append, silent, List.append_nil]
    exact self_fresh accounts shape distinct

theorem judged {rule : Except Fault Ty} (own : ∀ fault, rule = .error fault → fault.isOwn) :
    (Expr.settle expr.node parts (Expr.judged expr.node rule)).Accounts expr iterables := by
  cases rule with
  | ok type => exact settle accounts shape distinct (fun _ => rfl) .nil nofun nofun
  | error fault =>
    refine settle accounts shape distinct (absurd rfl) (List.nodup_singleton _) ?_ ?_
    · intro id listed
      rw [List.mem_singleton.mp listed]
      exact self_fresh accounts shape distinct
    · intro diagnostic listed id about
      rw [List.mem_singleton.mp listed] at about ⊢
      cases about
      exact ⟨expr, expr.self_mem_subterms, rfl, rfl, .itself (Fault.not_inUse (own fault rfl)) List.mem_cons_self⟩

end Typed.Accounts
end TypedTemplate
