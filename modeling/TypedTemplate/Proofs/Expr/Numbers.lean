import TypedTemplate.Expr.Infer
import TypedTemplate.Proofs.Sorted

namespace TypedTemplate

def Span.nowhere : Span := ⟨.nowhere, .nowhere⟩

def Node.numbered (id : Nat) : Node := ⟨id, .nowhere⟩

namespace Log

def numbers (log : Log) : List Nat := log.types.map Prod.fst

theorem numbers_append (a b : Log) : (a ++ b).numbers = b.numbers ++ a.numbers := List.map_append

theorem typeOf_of_mem {log : Log} {id : Nat} {type : Ty} (distinct : log.numbers.Nodup)
    (present : (id, type) ∈ log.types) : log.typeOf id = some type := Sorted.lookup_of_mem distinct present

theorem mem_of_typeOf {log : Log} {id : Nat} {type : Ty} (found : log.typeOf id = some type) :
    (id, type) ∈ log.types := Sorted.mem_of_lookup found

theorem typeOf_eq_none {log : Log} {id : Nat} (absent : id ∉ log.numbers) : log.typeOf id = none :=
  Sorted.lookup_eq_none_of_notMem absent

theorem typeOf_isSome {log : Log} {id : Nat} (present : id ∈ log.numbers) : ∃ type, log.typeOf id = some type := by
  cases found : log.typeOf id with
  | some type => exact ⟨type, rfl⟩
  | none =>
    obtain ⟨entry, listed, same⟩ := List.mem_map.mp present
    have differ := List.lookup_eq_none_iff.mp found entry listed
    rw [same] at differ
    simp at differ

theorem typeOf_isSome_iff {log : Log} {id : Nat} : (∃ type, log.typeOf id = some type) ↔ id ∈ log.numbers :=
  ⟨fun ⟨_, found⟩ => List.mem_map_of_mem (mem_of_typeOf found), typeOf_isSome⟩

theorem mem_types_append {a b : Log} {entry : Nat × Ty} :
    entry ∈ (a ++ b).types ↔ entry ∈ a.types ∨ entry ∈ b.types := by
  rw [types_append, List.mem_append, or_comm]

theorem typeOf_append_left {a b : Log} {id : Nat} (absent : id ∉ b.numbers) : (a ++ b).typeOf id = a.typeOf id := by
  rw [typeOf_append, typeOf_eq_none absent]; rfl

theorem typeOf_append_right {a b : Log} {id : Nat} (present : id ∈ b.numbers) : (a ++ b).typeOf id = b.typeOf id := by
  obtain ⟨type, found⟩ := typeOf_isSome present
  rw [typeOf_append, found]; rfl

end Log

namespace Expr

def ids (expr : Expr) : List Nat := expr.subterms.map id

def idsOf (exprs : List Expr) : List Nat := exprs.flatMap ids

theorem idsOf_append (first second : List Expr) : idsOf (first ++ second) = idsOf first ++ idsOf second :=
  List.flatMap_append

theorem idsOf_cons (expr : Expr) (rest : List Expr) : idsOf (expr :: rest) = expr.ids ++ idsOf rest := rfl

theorem idsOf_single (expr : Expr) : idsOf [expr] = expr.ids := List.append_nil _

theorem mem_idsOf {term : Expr} {exprs : List Expr} (inside : term ∈ exprs.flatMap subterms) : term.id ∈ idsOf exprs := by
  obtain ⟨expr, listed, part⟩ := List.mem_flatMap.mp inside
  exact List.mem_flatMap.mpr ⟨expr, listed, List.mem_map_of_mem part⟩

theorem map_id_sublist (exprs : List Expr) : (exprs.map id).Sublist (idsOf exprs) := by
  induction exprs with
  | nil => exact List.Sublist.refl _
  | cons expr rest ih =>
    exact (List.singleton_sublist.mpr (List.mem_map_of_mem expr.self_mem_subterms)).append ih

theorem distinct_append {terms terms' : List Expr} (distinct : ((terms ++ terms').map id).Nodup) :
    (terms.map id).Nodup ∧ (terms'.map id).Nodup := by
  rw [List.map_append, List.nodup_append] at distinct
  exact ⟨distinct.1, distinct.2.1⟩

theorem id_mem_ids (expr : Expr) : expr.id ∈ expr.ids := List.mem_map_of_mem (self_mem_subterms expr)

theorem types_settle (node : Node) (parts : Log) (verdict : Verdict) :
    (settle node parts verdict).log.types = (node.id, verdict.type) :: parts.types := rfl

theorem numbers_settle (node : Node) (parts : Log) (verdict : Verdict) :
    (settle node parts verdict).log.numbers = node.id :: parts.numbers := rfl

mutual
theorem numbers_infer (context : Context) : ∀ (expr : Expr) (scope : Scope),
    (expr.infer context scope).log.numbers = expr.ids.reverse
  | null _, _ | bool _ _, _ | int _ _, _ | float _ _, _ | string _ _, _ | var _ _, _ => rfl
  | list node items, scope => by
    rw [infer, numbers_settle, numbers_inferAll context items scope]
    simp [ids, subterms, id, Expr.node]
  | map node entries, scope => by
    rw [infer, numbers_settle, numbers_inferEntries context entries scope]
    simp [ids, subterms, id, Expr.node]
  | field node base name nullSafe, scope => by
    rw [infer, numbers_settle, numbers_infer context base scope]
    simp [ids, subterms, id, Expr.node]
  | index node base key nullSafe, scope => by
    rw [infer, numbers_settle, Log.numbers_append, numbers_infer context base scope, numbers_infer context key scope]
    simp [ids, subterms, id, Expr.node]
  | unary node operator operand, scope => by
    rw [infer, numbers_settle, numbers_infer context operand scope]
    simp [ids, subterms, id, Expr.node]
  | binary node operator left right, scope => by
    rw [infer, numbers_settle, Log.numbers_append, numbers_infer context left scope, numbers_infer context right _]
    simp [ids, subterms, id, Expr.node]
  | conditional node condition thenValue elseValue, scope => by
    rw [infer, numbers_settle, Log.numbers_append, Log.numbers_append, numbers_infer context condition scope,
      numbers_infer context thenValue _, numbers_infer context elseValue _]
    simp [ids, subterms, id, Expr.node]
  | call node name args, scope => by
    rw [infer, numbers_settle, numbers_inferAll context args scope]
    simp [ids, subterms, id, Expr.node]

theorem numbers_inferAll (context : Context) : ∀ (exprs : List Expr) (scope : Scope),
    (Log.concat ((inferAll context scope exprs).map Typed.log)).numbers = ((subtermsOf exprs).map id).reverse
  | [], _ => rfl
  | expr :: rest, scope => by
    rw [inferAll, List.map_cons, Log.concat, Log.numbers_append, numbers_infer context expr scope,
      numbers_inferAll context rest scope]
    simp [ids, subtermsOf]

theorem numbers_inferEntries (context : Context) : ∀ (entries : List (Expr × Expr)) (scope : Scope),
    (Log.concat ((inferEntries context scope entries).map fun part => part.1.log ++ part.2.log)).numbers =
      ((subtermsOfEntries entries).map id).reverse
  | [], _ => rfl
  | (key, value) :: rest, scope => by
    rw [inferEntries, List.map_cons, Log.concat, Log.numbers_append, Log.numbers_append, numbers_infer context key scope,
      numbers_infer context value scope, numbers_inferEntries context rest scope]
    simp [ids, subtermsOfEntries]
end

theorem numbers_infer_nodup {context : Context} {scope : Scope} {expr : Expr} (distinct : expr.ids.Nodup) :
    (expr.infer context scope).log.numbers.Nodup := by
  rw [numbers_infer, List.nodup_reverse]
  exact distinct

theorem mem_numbers_infer {context : Context} {scope : Scope} {expr : Expr} {id : Nat} :
    id ∈ (expr.infer context scope).log.numbers ↔ id ∈ expr.ids := by
  rw [numbers_infer, List.mem_reverse]

theorem typeOf_infer_self (context : Context) (scope : Scope) (expr : Expr) :
    (expr.infer context scope).log.typeOf expr.id = some (expr.infer context scope).type := by
  cases expr <;> simp [infer, settle, Log.typeOf, Log.types_append, id, Expr.node]

end Expr
end TypedTemplate
