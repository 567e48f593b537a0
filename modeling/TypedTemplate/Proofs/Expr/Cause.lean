import TypedTemplate.Proofs.Expr.Accounts

namespace TypedTemplate

-- What a fault in an expression goes back to, by the types that were recorded: the rule of the
-- expression fails on the types of its parts, or a call or a map literal around it on its own.
inductive Expr.Cause (modern : Bool) (recorded : Nat → Ty → Prop) : Expr → Fault → Prop
  | var {node : Node} {name : String} {fault : Fault} (own : fault.isOwn) : Cause modern recorded (.var node name) fault
  | call {node : Node} {name : String} {args : List Expr} {fault : Fault} (own : fault.isOwn) :
    Cause modern recorded (.call node name args) fault
  | field {node : Node} {base : Expr} {name : String} {nullSafe : Bool} {type : Ty} {fault : Fault}
    (typed : recorded base.id type) (failed : access type (.field name) nullSafe = .error fault) :
    Cause modern recorded (.field node base name nullSafe) fault
  | index {node : Node} {base key : Expr} {nullSafe : Bool} {type keyType : Ty} {fault : Fault}
    (typed : recorded base.id type) (keyTyped : recorded key.id keyType)
    (literal : ∀ name, key.stringLiteral? = some name → keyType = .string)
    (failed : access type (indexKey type key keyType) nullSafe = .error fault) :
    Cause modern recorded (.index node base key nullSafe) fault
  | unary {node : Node} {operator : UnaryOperator} {operand : Expr} {type : Ty} {fault : Fault}
    (typed : recorded operand.id type) (failed : unaryType modern operator type = .error fault) :
    Cause modern recorded (.unary node operator operand) fault
  | binary {node : Node} {operator : BinaryOperator} {left right : Expr} {type type' : Ty} {fault : Fault}
    (typed : recorded left.id type) (typed' : recorded right.id type')
    (failed : binaryType modern operator type type' = .error fault) :
    Cause modern recorded (.binary node operator left right) fault
  | key {key : Expr} {name : String} : Cause modern recorded key (.duplicateKey name)
  | argument {arg : Expr} {type : Ty} {expected received : String} (typed : recorded arg.id type)
    (known : type ≠ .unknown) : Cause modern recorded arg (.argumentTypeMismatch expected received)

theorem Expr.Cause.imp {modern : Bool} {recorded recorded' : Nat → Ty → Prop} {expr : Expr} {fault : Fault}
    (cause : expr.Cause modern recorded fault) (still : ∀ id type, recorded id type → recorded' id type) :
    expr.Cause modern recorded' fault := by
  cases cause with
  | var own => exact .var own
  | call own => exact .call own
  | field typed failed => exact .field (still _ _ typed) failed
  | index typed keyTyped literal failed => exact .index (still _ _ typed) (still _ _ keyTyped) literal failed
  | unary typed failed => exact .unary (still _ _ typed) failed
  | binary typed typed' failed => exact .binary (still _ _ typed) (still _ _ typed') failed
  | key => exact .key
  | argument typed known => exact .argument (still _ _ typed) known

def Diagnostic.Caused (diagnostic : Diagnostic) (modern : Bool) (recorded : Nat → Ty → Prop) (terms : List Expr) : Prop :=
  ∃ term ∈ terms, ∃ fault, diagnostic = Expr.blame term.node fault ∧ term.Cause modern recorded fault

theorem Diagnostic.Caused.imp {diagnostic : Diagnostic} {modern : Bool} {recorded recorded' : Nat → Ty → Prop}
    {terms terms' : List Expr} (caused : diagnostic.Caused modern recorded terms)
    (still : ∀ id type, recorded id type → recorded' id type) (within : terms ⊆ terms') :
    diagnostic.Caused modern recorded' terms' := by
  obtain ⟨term, inside, fault, same, cause⟩ := caused
  exact ⟨term, within inside, fault, same, cause.imp still⟩

namespace Log

def Causes (log : Log) (modern : Bool) (terms : List Expr) : Prop :=
  ∀ diagnostic ∈ log.diagnostics, diagnostic.Caused modern log.Recorded terms

variable {a b : Log} {modern : Bool} {terms terms' : List Expr}

theorem Causes.empty : Log.empty.Causes modern [] := nofun

theorem Causes.append (first : a.Causes modern terms) (second : b.Causes modern terms') :
    (a ++ b).Causes modern (terms ++ terms') := by
  intro diagnostic listed
  rcases List.mem_append.mp listed with earlier | later
  · exact (first diagnostic earlier).imp (fun _ _ found => mem_types_append.mpr (.inl found)) (List.subset_append_left _ _)
  · exact (second diagnostic later).imp (fun _ _ found => mem_types_append.mpr (.inr found)) (List.subset_append_right _ _)

end Log

namespace Expr

open Log

theorem infer_recorded (context : Context) (scope : Scope) (expr : Expr) :
    (expr.infer context scope).log.Recorded expr.id (expr.infer context scope).type :=
  mem_of_typeOf (typeOf_infer_self context scope expr)

theorem inferAll_recorded (context : Context) (scope : Scope) {exprs : List Expr} {expr : Expr} (listed : expr ∈ exprs) :
    (Log.concat ((inferAll context scope exprs).map Typed.log)).Recorded expr.id (expr.infer context scope).type := by
  induction exprs with
  | nil => cases listed
  | cons first rest ih =>
    rw [inferAll]
    rcases List.mem_cons.mp listed with rfl | later
    · exact mem_types_append.mpr (.inl (infer_recorded context scope expr))
    · exact mem_types_append.mpr (.inr (ih later))

section settle

variable {parts : Log} {terms : List Expr} {modern : Bool} (expr : Expr) (found : parts.Causes modern terms)
  (shape : expr.subterms = terms ++ [expr])
include found shape

theorem settle_causes {verdict : Verdict}
    (own : ∀ diagnostic ∈ verdict.diagnostics, diagnostic.Caused modern parts.Recorded expr.subterms) :
    (settle expr.node parts verdict).log.Causes modern expr.subterms := by
  intro diagnostic listed
  have still (id : Nat) (type : Ty) (recorded : parts.Recorded id type) :
      (settle expr.node parts verdict).log.Recorded id type := mem_types_append.mpr (.inl recorded)
  rcases List.mem_append.mp listed with earlier | later
  · exact (found diagnostic earlier).imp still (shape ▸ List.subset_append_left _ _)
  · exact (own diagnostic later).imp still (List.Subset.refl _)

theorem judged_causes {rule : Except Fault Ty} (own : ∀ fault, rule = .error fault → expr.Cause modern parts.Recorded fault) :
    (settle expr.node parts (judged expr.node rule)).log.Causes modern expr.subterms := by
  refine settle_causes expr found shape ?_
  cases rule with
  | ok type => exact nofun
  | error fault =>
    exact List.forall_mem_singleton.mpr ⟨expr, expr.self_mem_subterms, fault, rfl, own fault rfl⟩

end settle

theorem literalType_causes {modern : Bool} {recorded : Nat → Ty → Prop} (keys : List Expr) (keyTypes valueTypes : List Ty) :
    ∀ diagnostic ∈ (literalType keys keyTypes valueTypes).diagnostics, diagnostic.Caused modern recorded keys := by
  unfold literalType
  split
  · split
    · rename_i key name repeated
      have listed := (List.of_mem_zip (of_repeatedKey? repeated)).1
      exact List.forall_mem_singleton.mpr ⟨key, listed, .duplicateKey name, rfl, .key⟩
    · exact nofun
  · exact nofun

theorem callType_causes {modern : Bool} {recorded : Nat → Ty → Prop} (context : Context) (node : Node) (name : String)
    (args : List Expr) (typeOf : Expr → Ty) (typed : ∀ arg ∈ args, recorded arg.id (typeOf arg)) :
    ∀ diagnostic ∈ (callType context node name args (args.map typeOf)).diagnostics,
      diagnostic.Caused modern recorded (args ++ [call node name args]) := by
  have own {fault : Fault} (own : fault.isOwn) : (blame node fault).Caused modern recorded (args ++ [call node name args]) :=
    ⟨call node name args, by simp, fault, rfl, .call own⟩
  unfold callType
  split
  · exact List.forall_mem_singleton.mpr (own rfl)
  split
  · exact List.forall_mem_singleton.mpr (own rfl)
  split
  · exact List.forall_mem_singleton.mpr (own rfl)
  split
  · exact nofun
  · intro diagnostic listed
    obtain ⟨arg, inside, known, expected, received, same⟩ := of_mismatch typeOf listed
    exact ⟨arg, List.mem_append_left _ inside, _, same, .argument (typed arg inside) known⟩

-- Induction on the expression: the parts are recorded when its own rule is applied, with the
-- types that the rule is applied to.
mutual
theorem infer_causes (context : Context) : ∀ (expr : Expr) (scope : Scope),
    (expr.infer context scope).log.Causes context.version.isModern expr.subterms
  | null _, _ | bool _ _, _ | int _ _, _ | float _ _, _ | string _ _, _ => nofun
  | var node name, scope => by
    rw [infer]
    exact judged_causes (var node name) .empty rfl fun _ failed => .var (varType_own failed)
  | list node items, scope => by
    rw [infer]
    exact judged_causes (list node items) (inferAll_causes context items scope) rfl nofun
  | map node entries, scope => by
    rw [infer]
    refine settle_causes (map node entries) (inferEntries_causes context entries scope) rfl fun diagnostic listed => ?_
    refine (literalType_causes _ _ _ diagnostic listed).imp (fun _ _ found => found) fun key present => ?_
    obtain ⟨entry, inside, rfl⟩ := List.mem_map.mp present
    exact List.mem_append_left _ (mem_subtermsOfEntries inside)
  | field node base name nullSafe, scope => by
    rw [infer]
    refine judged_causes (field node base name nullSafe) (infer_causes context base scope) rfl fun fault failed => ?_
    split at failed
    · cases failed
    · exact .field (infer_recorded context scope base) failed
  | index node base key nullSafe, scope => by
    rw [infer]
    refine judged_causes (index node base key nullSafe)
      ((infer_causes context base scope).append (infer_causes context key scope)) rfl fun fault failed => ?_
    refine .index (mem_types_append.mpr (.inl (infer_recorded context scope base)))
      (mem_types_append.mpr (.inr (infer_recorded context scope key))) ?_ failed
    exact fun name literal => type_of_literal context scope literal
  | unary node operator operand, scope => by
    rw [infer]
    exact judged_causes (unary node operator operand) (infer_causes context operand scope) rfl
      fun _ failed => .unary (infer_recorded context scope operand) failed
  | binary node operator left right, scope => by
    rw [infer]
    refine judged_causes (binary node operator left right)
      ((infer_causes context left scope).append (infer_causes context right _)) rfl fun fault failed => ?_
    exact .binary (mem_types_append.mpr (.inl (infer_recorded context scope left)))
      (mem_types_append.mpr (.inr (infer_recorded context _ right))) failed
  | conditional node condition thenValue elseValue, scope => by
    rw [infer]
    exact judged_causes (conditional node condition thenValue elseValue)
      (((infer_causes context condition scope).append (infer_causes context thenValue _)).append
        (infer_causes context elseValue _)) rfl fun _ failed => nomatch failed
  | call node name args, scope => by
    rw [infer, types_inferAll]
    refine settle_causes (call node name args) (inferAll_causes context args scope) rfl fun diagnostic listed => ?_
    refine (callType_causes context node name args _ (fun _ => inferAll_recorded context scope) diagnostic listed).imp
      (fun _ _ found => found) ?_
    exact List.append_subset.mpr ⟨fun arg inside => List.mem_append_left _ (mem_subtermsOf inside),
      List.subset_append_right _ _⟩

theorem inferAll_causes (context : Context) : ∀ (exprs : List Expr) (scope : Scope),
    (Log.concat ((inferAll context scope exprs).map Typed.log)).Causes context.version.isModern (subtermsOf exprs)
  | [], _ => .empty
  | expr :: rest, scope => (infer_causes context expr scope).append (inferAll_causes context rest scope)

theorem inferEntries_causes (context : Context) : ∀ (entries : List (Expr × Expr)) (scope : Scope),
    (Log.concat ((inferEntries context scope entries).map fun part => part.1.log ++ part.2.log)).Causes
      context.version.isModern (subtermsOfEntries entries)
  | [], _ => .empty
  | (key, value) :: rest, scope =>
    ((infer_causes context key scope).append (infer_causes context value scope)).append
      (inferEntries_causes context rest scope)
end

end Expr

-- The faults that can be found in an expression: those of its own rule and those in the
-- use of its parts.
def Fault.ofExpr : Fault → Bool
  | .argumentTypeMismatch _ _ | .duplicateKey _ => true
  | fault => fault.isOwn

theorem Fault.ofExpr_of_isOwn {fault : Fault} (own : fault.isOwn) : fault.ofExpr := by
  unfold ofExpr
  split
  · rfl
  · rfl
  · exact own

def Diagnostic.Blames (diagnostic : Diagnostic) (terms : List Expr) : Prop :=
  ∃ term ∈ terms, ∃ fault : Fault, fault.ofExpr ∧ diagnostic = Expr.blame term.node fault

def Log.Blames (log : Log) (terms : List Expr) : Prop := ∀ diagnostic ∈ log.diagnostics, diagnostic.Blames terms

namespace Expr

theorem Cause.ofExpr {modern : Bool} {recorded : Nat → Ty → Prop} {expr : Expr} {fault : Fault}
    (cause : expr.Cause modern recorded fault) : fault.ofExpr := by
  cases cause with
  | var own | call own => exact Fault.ofExpr_of_isOwn own
  | field _ failed | index _ _ _ failed => exact Fault.ofExpr_of_isOwn (access_own failed)
  | unary _ failed => exact Fault.ofExpr_of_isOwn (unaryType_own failed)
  | binary _ _ failed => exact Fault.ofExpr_of_isOwn (binaryType_own failed)
  | key | argument => rfl

theorem infer_blames (context : Context) (expr : Expr) (scope : Scope) :
    (expr.infer context scope).log.Blames expr.subterms := by
  intro diagnostic listed
  obtain ⟨term, inside, fault, same, cause⟩ := infer_causes context expr scope diagnostic listed
  exact ⟨term, inside, fault, cause.ofExpr, same⟩

end Expr
end TypedTemplate
