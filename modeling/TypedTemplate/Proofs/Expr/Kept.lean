import TypedTemplate.Proofs.Expr.Evidence
import TypedTemplate.Proofs.Scope.Kept

namespace TypedTemplate

open Ty (Kept)

-- Whether an expression does not leave its type open by what it is: as an empty list or
-- map does, injected data, and the keys of a value.
def Expr.explicit : Expr → Bool
  | list _ [] | map _ [] => false
  | var _ name => name != injectedData
  | call _ name _ => name != "keys"
  | _ => true

structure Signature.Accepts (signature : Signature) (types : List Ty) : Prop where
  enough : signature.required ≤ types.length
  few : types.length ≤ signature.params.length
  fit : ∀ pair ∈ types.zip signature.params, Ty.assignable pair.1 pair.2

-- Of arguments with types in a collection every function but `keys` makes a result with
-- one, and `keys` does so too where types may be unknown.
def Context.Keeps (context : Context) (among : Ty → Prop) : Prop :=
  ∀ {name : String} {signature : Signature} {types : List Ty}, context.signature name = some signature →
    signature.Accepts types → (∀ type ∈ types, among type) → (among .unknown ∨ name ≠ "keys") →
    among (signature.resultType types)

def Log.Each (log : Log) (among : Ty → Prop) : Prop := ∀ entry ∈ log.types, among entry.2

def Log.Fine (log : Log) (among : Ty → Prop) (terms : List Expr) : Prop :=
  among .unknown ∨ log.diagnostics = [] ∧ ∀ part ∈ terms, part.explicit

structure Typed.Kept (typed : Typed) (among : Ty → Prop) : Prop where
  type : among typed.type
  recorded : typed.log.Each among

section

variable {among : Ty → Prop} {log log' : Log} {terms terms' : List Expr}

namespace Log

theorem Each.empty : Log.empty.Each among := nofun

theorem Each.append (first : log.Each among) (second : log'.Each among) : (log ++ log').Each among := by
  intro entry present
  exact (mem_types_append.mp present).elim (first entry) (second entry)

theorem Each.typeOf (each : log.Each among) {id : Nat} {type : Ty} (found : log.typeOf id = some type) : among type :=
  each _ (mem_of_typeOf found)

theorem Fine.append (fine : (log ++ log').Fine among (terms ++ terms')) :
    log.Fine among terms ∧ log'.Fine among terms' := by
  rcases fine with allowed | ⟨right, explicit⟩
  · exact ⟨.inl allowed, .inl allowed⟩
  · rw [diagnostics_append, List.append_eq_nil_iff] at right
    rw [List.forall_mem_append] at explicit
    exact ⟨.inr ⟨right.1, explicit.1⟩, .inr ⟨right.2, explicit.2⟩⟩

theorem Fine.settle {node : Node} {verdict : Verdict} {expr : Expr}
    (fine : (Expr.settle node log verdict).log.Fine among (terms ++ [expr])) :
    log.Fine among terms ∧ (among .unknown ∨ verdict.diagnostics = []) ∧ (among .unknown ∨ expr.explicit) := by
  obtain ⟨parts, whole⟩ := fine.append
  exact ⟨parts, whole.imp_right And.left, whole.imp_right fun right => right.2 expr List.mem_cons_self⟩

end Log

theorem Typed.Kept.settle (parts : log.Each among) {verdict : Verdict} (type : among verdict.type) (node : Node) :
    (Expr.settle node log verdict).Kept among where
  type := type
  recorded := parts.append (by simpa [Log.Each] using type)

end

namespace Expr

section rules

variable {among : Ty → Prop} {scope : Scope}

theorem judged_kept {node : Node} {rule : Except Fault Ty} (fine : among .unknown ∨ (judged node rule).diagnostics = [])
    (holds : ∀ type, rule = .ok type → among type) : among (judged node rule).type := by
  cases rule with
  | ok type => exact holds type rfl
  | error fault => exact fine.resolve_right (List.cons_ne_nil _ _)

theorem varType_kept (kept : Kept among) (each : scope.Each among) {name : String} {type : Ty}
    (open' : among .unknown ∨ name ≠ injectedData) (found : varType scope name = .ok type) : among type := by
  unfold varType at found
  split at found
  · rename_i injected
    cases found
    exact open'.resolve_right (absurd injected)
  · split at found
    · cases found
    · rename_i symbol declared
      cases found
      obtain ⟨type, told⟩ := Scope.typeOf_of_declares ⟨symbol, declared⟩
      rw [told]
      exact each.typeOf kept told

theorem access_kept (kept : Kept among) {base result : Ty} {key : IndexKey} {nullSafe : Bool} (holds : among base)
    (found : access base key nullSafe = .ok result) : among result := by
  unfold access at found
  split at found
  · cases found; exact kept.null
  · split at found
    · rename_i type indexed
      cases found
      have inner := kept.index holds indexed
      split
      · exact kept.nullable inner
      · exact inner
    · cases found

theorem fieldType_kept (kept : Kept among) (each : scope.Each among) {key? : Option RefKey} {base result : Ty}
    {name : String} {nullSafe : Bool} (holds : among base)
    (found : fieldType scope key? base name nullSafe = .ok result) : among result := by
  unfold fieldType at found
  split at found
  · rename_i narrowed bound
    cases found
    obtain ⟨key, _, told⟩ := Option.bind_eq_some_iff.mp bound
    unfold narrowedPath at told
    split at told
    · cases told
    · exact each.typeOf kept told
  · exact access_kept kept holds found

theorem unaryType_kept (kept : Kept among) {modern : Bool} {operator : UnaryOperator} {operand result : Ty}
    (holds : among operand) (found : unaryType modern operator operand = .ok result) : among result := by
  cases operator with
  | not =>
    cases found
    split
    · exact kept.bool
    · exact holds
  | negate => exact kept.negate holds found

theorem binaryType_kept (kept : Kept among) {modern : Bool} {operator : BinaryOperator} {left right result : Ty}
    (first : among left) (second : among right) (found : binaryType modern operator left right = .ok result) :
    among result := by
  cases operator with
  | plus => exact kept.plus first second found
  | minus | times | divide | modulo => exact kept.arithmetic first second found
  | less | lessEquals | greater | greaterEquals | equals | notEquals => cases found; exact kept.bool
  | and | or =>
    cases found
    split
    · exact kept.bool
    · exact kept.join first second
  | orElse => cases found; exact kept.join (kept.removeNull first) second

theorem literalType_kept (kept : Kept among) {keys : List Expr} {keyTypes valueTypes : List Ty}
    (fine : among .unknown ∨ (literalType keys keyTypes valueTypes).diagnostics = [])
    (some : among .unknown ∨ keyTypes ≠ [] ∧ valueTypes ≠ []) (first : ∀ type ∈ keyTypes, among type)
    (second : ∀ type ∈ valueTypes, among type) : among (literalType keys keyTypes valueTypes).type := by
  unfold literalType at fine ⊢
  split
  · rename_i literals
    rw [literals] at fine
    dsimp only at fine
    split
    · rename_i repeated
      rw [repeated] at fine
      exact fine.resolve_right (List.cons_ne_nil _ _)
    · exact kept.ofFields fun field present => second _ (List.of_mem_zip present).2
  · exact kept.map.mpr ⟨kept.unionOf_of_allowed (some.imp_right And.left) first,
      kept.unionOf_of_allowed (some.imp_right And.right) second⟩

theorem fit_of_mismatches {args : List Expr} {types params : List Ty} (same : types.length = args.length)
    (right : mismatches args types params = []) : ∀ pair ∈ types.zip params, Ty.assignable pair.1 pair.2 := by
  induction args generalizing types params with
  | nil =>
    rw [List.eq_nil_of_length_eq_zero same]
    exact nofun
  | cons arg rest ih =>
    match types, params with
    | [], _ => cases same
    | type :: types, [] => exact nofun
    | type :: types, param :: params =>
      rw [mismatches] at right
      split at right
      · rename_i fits
        rw [List.zip_cons_cons, List.forall_mem_cons]
        exact ⟨fits, ih (by simpa using same) right⟩
      · cases right

theorem callType_kept {context : Context} (keeps : context.Keeps among) {node : Node} {name : String} {args : List Expr}
    {types : List Ty} (same : types.length = args.length)
    (fine : among .unknown ∨ (callType context node name args types).diagnostics = [])
    (allowed : among .unknown ∨ name ≠ "keys") (holds : ∀ type ∈ types, among type) :
    among (callType context node name args types).type := by
  have failing {fault : Fault} (fine : among .unknown ∨ (judged node (.error fault)).diagnostics = []) : among .unknown :=
    fine.resolve_right (List.cons_ne_nil _ _)
  unfold callType at fine ⊢
  split
  · rename_i unnamed
    rw [unnamed] at fine
    exact failing fine
  · rename_i signature named
    rw [named] at fine
    dsimp only at fine
    split
    · rename_i many
      rw [if_pos many] at fine
      exact failing fine
    · rename_i few
      rw [if_neg few] at fine
      split
      · rename_i less
        rw [if_pos less] at fine
        exact failing fine
      · rename_i enough
        rw [if_neg enough] at fine
        split
        · rename_i fits
          exact keeps named ⟨by omega, by omega, fit_of_mismatches same fits⟩ holds allowed
        · rename_i found differ
          split at fine
          · rename_i none
            exact absurd none differ
          · exact fine.resolve_right differ

theorem told_kept (kept : Kept among) {log : Log} (recorded : log.Each among) (modern : Bool) (condition : Expr) :
    (∀ entry ∈ (condition.refine log.typeOf modern).whenTrue, among entry.2) ∧
      ∀ entry ∈ (condition.refine log.typeOf modern).whenFalse, among entry.2 := by
  have sorted := refine_sorted log.typeOf modern condition
  have within := refine_within kept.closed log.typeOf (fun _ _ found => recorded.typeOf found) modern condition
  exact ⟨within.whenTrue.entries sorted.whenTrue, within.whenFalse.entries sorted.whenFalse⟩

theorem rightScope_kept (kept : Kept among) (each : scope.Each among) {typed : Typed} (part : typed.Kept among)
    (modern : Bool) (operator : BinaryOperator) (left : Expr) : (rightScope modern scope operator left typed).Each among := by
  have known := told_kept kept part.recorded modern left
  unfold rightScope
  split
  · exact each.under known.1
  · exact each.under known.2
  · split
    · split
      · exact each.under (by simpa using kept.null)
      · exact each
    · exact each
  · exact each

end rules

-- In a scope of types from a collection every type found for an expression is in it.
mutual
theorem infer_kept {among : Ty → Prop} {context : Context} (kept : Kept among) (keeps : context.Keeps among) :
    ∀ (expr : Expr) {scope : Scope}, scope.Each among →
    (expr.infer context scope).log.Fine among expr.subterms → (expr.infer context scope).Kept among
  | null node, _, _, _ => .settle .empty kept.null node
  | bool node _, _, _, _ => .settle .empty kept.bool node
  | int node _, _, _, _ => .settle .empty kept.int node
  | float node _, _, _, _ => .settle .empty kept.float node
  | string node _, _, _, _ => .settle .empty kept.string node
  | list node items, scope, each, fine => by
    rw [infer, subterms] at fine
    rw [infer]
    obtain ⟨inner, _, explicit⟩ := fine.settle
    obtain ⟨types, recorded⟩ := inferAll_kept kept keeps items each inner
    refine .settle recorded (kept.list.mpr (kept.unionOf_of_allowed (explicit.imp_right ?_) types)) node
    intro some
    cases items with
    | nil => cases some
    | cons first rest => exact List.cons_ne_nil _ _
  | map node entries, scope, each, fine => by
    rw [infer, subterms] at fine
    rw [infer]
    obtain ⟨inner, right, explicit⟩ := fine.settle
    obtain ⟨keys, values, recorded⟩ := inferEntries_kept kept keeps entries each inner
    refine .settle recorded (literalType_kept kept right (explicit.imp_right ?_) keys values) node
    intro some
    cases entries with
    | nil => cases some
    | cons first rest => exact ⟨List.cons_ne_nil _ _, List.cons_ne_nil _ _⟩
  | var node name, scope, each, fine => by
    rw [infer] at fine
    rw [infer]
    obtain ⟨_, right, explicit⟩ := (show Log.Fine _ among ([] ++ [var node name]) from fine).settle
    refine .settle .empty (judged_kept right fun type found => varType_kept kept each ?_ found) node
    exact explicit.imp_right fun named => by simpa [Expr.explicit] using named
  | field node base name nullSafe, scope, each, fine => by
    rw [infer_field, subterms] at fine
    rw [infer_field]
    obtain ⟨inner, right, _⟩ := fine.settle
    have part := infer_kept kept keeps base each inner
    exact .settle part.recorded (judged_kept right fun type found => fieldType_kept kept each part.type found) node
  | index node base key nullSafe, scope, each, fine => by
    rw [infer, subterms] at fine
    rw [infer]
    obtain ⟨inner, right, _⟩ := fine.settle
    have part := infer_kept kept keeps base each inner.append.1
    have keyPart := infer_kept kept keeps key each inner.append.2
    exact .settle (part.recorded.append keyPart.recorded)
      (judged_kept right fun type found => access_kept kept part.type found) node
  | unary node operator operand, scope, each, fine => by
    rw [infer, subterms] at fine
    rw [infer]
    obtain ⟨inner, right, _⟩ := fine.settle
    have part := infer_kept kept keeps operand each inner
    exact .settle part.recorded (judged_kept right fun type found => unaryType_kept kept part.type found) node
  | binary node operator left right, scope, each, fine => by
    rw [infer, subterms] at fine
    rw [infer]
    obtain ⟨inner, own, _⟩ := fine.settle
    have leftPart := infer_kept kept keeps left each inner.append.1
    have known := rightScope_kept kept each leftPart context.version.isModern operator left
    have rightPart := infer_kept kept keeps right known inner.append.2
    exact .settle (leftPart.recorded.append rightPart.recorded)
      (judged_kept own fun type found => binaryType_kept kept leftPart.type rightPart.type found) node
  | conditional node condition thenValue elseValue, scope, each, fine => by
    rw [infer, subterms] at fine
    rw [infer]
    obtain ⟨inner, _, _⟩ := fine.settle
    have part := infer_kept kept keeps condition each inner.append.1.append.1
    have known := told_kept kept part.recorded context.version.isModern condition
    have thenPart := infer_kept kept keeps thenValue (each.under known.1) inner.append.1.append.2
    have elsePart := infer_kept kept keeps elseValue (each.under known.2) inner.append.2
    exact .settle ((part.recorded.append thenPart.recorded).append elsePart.recorded)
      (kept.join thenPart.type elsePart.type) node
  | call node name args, scope, each, fine => by
    rw [infer, subterms] at fine
    rw [infer]
    obtain ⟨inner, right, explicit⟩ := fine.settle
    obtain ⟨types, recorded⟩ := inferAll_kept kept keeps args each inner
    refine .settle recorded (callType_kept keeps (by simp [inferAll_eq_map]) right (explicit.imp_right ?_) types) node
    exact fun named => by simpa [Expr.explicit] using named

theorem inferAll_kept {among : Ty → Prop} {context : Context} (kept : Kept among) (keeps : context.Keeps among) :
    ∀ (exprs : List Expr) {scope : Scope}, scope.Each among →
    (Log.concat ((inferAll context scope exprs).map Typed.log)).Fine among (subtermsOf exprs) →
    (∀ type ∈ (inferAll context scope exprs).map Typed.type, among type) ∧
      (Log.concat ((inferAll context scope exprs).map Typed.log)).Each among
  | [], _, _, _ => ⟨nofun, .empty⟩
  | expr :: rest, scope, each, fine => by
    rw [inferAll, List.map_cons, Log.concat, subtermsOf] at fine
    have first := infer_kept kept keeps expr each fine.append.1
    obtain ⟨types, recorded⟩ := inferAll_kept kept keeps rest each fine.append.2
    rw [inferAll, List.map_cons, List.map_cons, List.forall_mem_cons, Log.concat]
    exact ⟨⟨first.type, types⟩, first.recorded.append recorded⟩

theorem inferEntries_kept {among : Ty → Prop} {context : Context} (kept : Kept among) (keeps : context.Keeps among) :
    ∀ (entries : List (Expr × Expr)) {scope : Scope}, scope.Each among →
    (Log.concat ((inferEntries context scope entries).map fun part => part.1.log ++ part.2.log)).Fine among
      (subtermsOfEntries entries) →
    (∀ type ∈ (inferEntries context scope entries).map fun part => part.1.type, among type) ∧
      (∀ type ∈ (inferEntries context scope entries).map fun part => part.2.type, among type) ∧
      (Log.concat ((inferEntries context scope entries).map fun part => part.1.log ++ part.2.log)).Each among
  | [], _, _, _ => ⟨nofun, nofun, .empty⟩
  | (key, value) :: rest, scope, each, fine => by
    rw [inferEntries, List.map_cons, Log.concat, subtermsOfEntries] at fine
    obtain ⟨first, later⟩ := fine.append
    have keyPart := infer_kept kept keeps key each first.append.1
    have valuePart := infer_kept kept keeps value each first.append.2
    obtain ⟨keys, values, recorded⟩ := inferEntries_kept kept keeps rest each later
    rw [inferEntries, List.map_cons, List.map_cons, List.map_cons, List.forall_mem_cons, List.forall_mem_cons, Log.concat]
    exact ⟨⟨keyPart.type, keys⟩, ⟨valuePart.type, values⟩,
      (keyPart.recorded.append valuePart.recorded).append recorded⟩
end

end Expr
end TypedTemplate
