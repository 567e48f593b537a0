import TypedTemplate.Proofs.Expr.BlurEvidence

namespace TypedTemplate

open Ty (Normal)

structure Typed.Follows (typed typed' : Typed) : Prop where
  diagnostics : typed'.log.diagnostics = []
  blurs : typed.type.Blurs typed'.type

namespace Expr

variable {context : Context} {scope scope' : Scope} {typeOf : Nat → Option Ty}

theorem settle_follows {node : Node} {parts parts' : Log} {verdict verdict' : Verdict} (clean : verdict.diagnostics = [])
    (inner : parts'.diagnostics = []) (follows : verdict.Follows verdict') :
    (settle node parts verdict).Follows (settle node parts' verdict') := by
  obtain ⟨right, blurs⟩ := follows clean
  refine ⟨?_, blurs⟩
  show parts'.diagnostics ++ verdict'.diagnostics = []
  rw [inner, right]
  rfl

theorem refine_blurs (condition : Expr) (distinct : condition.ids.Nodup) (blurs : scope.Blurs scope')
    (clean : (condition.infer context scope).log.Clean typeOf condition.subterms) :
    (condition.refine (condition.infer context scope).log.typeOf context.version.isModern).whenTrue.Blurs
        (condition.refine (condition.infer context scope').log.typeOf context.version.isModern).whenTrue scope scope' ∧
      (condition.refine (condition.infer context scope).log.typeOf context.version.isModern).whenFalse.Blurs
        (condition.refine (condition.infer context scope').log.typeOf context.version.isModern).whenFalse scope scope' := by
  rw [refine_infer context condition scope distinct, refine_infer context condition scope' distinct]
  exact Formula.evidence_blurs _ blurs (Formula.evidence_matches _ blurs (formula_solid context condition scope distinct clean))

theorem orElse_blurs {left : Expr} {key : RefKey} (denotes : left.refKey? = some key) (blurs : scope.Blurs scope')
    (clean : (left.infer context scope).log.Clean typeOf left.subterms) :
    (if (left.infer context scope).type.isNullable then scope.under [(key, .null)] else scope).Blurs
      (if (left.infer context scope').type.isNullable then scope'.under [(key, .null)] else scope') := by
  obtain ⟨solid, found⟩ := read_of_clean left denotes clean
  obtain ⟨type', found', types⟩ := blurs.read solid found
  rw [infer_of_read context left denotes found']
  have told {scope : Scope} {type : Ty} (found : scope.read key = some type) (nullable : type.isNullable) :
      Constraints.Within [(key, .null)] scope.Told := .single ⟨type, found, nullable, .absent, rfl⟩
  by_cases known : type' = .unknown
  · subst known
    rw [if_neg (show ¬Ty.unknown.isNullable = true by decide)]
    split
    · rename_i nullable
      have under := blurs.under ⟨Formula.single_matches_nil found', List.pairwise_singleton _ _, List.Pairwise.nil,
        told found nullable, nofun⟩
      exact under.of_agrees (.refl _) (Scope.Agrees.refl scope').enter_left under.normal blurs.normal'
    · exact blurs
  · have same := types.isNullable_iff known
    split
    · rename_i nullable
      rw [if_pos (same.mp nullable)]
      exact blurs.under ⟨Formula.single_matches (Ty.blurs_self .null), List.pairwise_singleton _ _,
        List.pairwise_singleton _ _, told found nullable, told found' (same.mp nullable)⟩
    · rename_i present
      rw [if_neg (mt same.mpr present)]
      exact blurs

theorem rightScope_blurs (operator : BinaryOperator) (left : Expr) (distinct : left.ids.Nodup) (blurs : scope.Blurs scope')
    (clean : (left.infer context scope).log.Clean typeOf left.subterms) :
    (rightScope context.version.isModern scope operator left (left.infer context scope)).Blurs
      (rightScope context.version.isModern scope' operator left (left.infer context scope')) := by
  unfold rightScope
  split
  · exact blurs.under (refine_blurs left distinct blurs clean).1
  · exact blurs.under (refine_blurs left distinct blurs clean).2
  · split
    · rename_i key denotes
      exact orElse_blurs denotes blurs clean
    · exact blurs
  · exact blurs

theorem varType_follows (blurs : scope.Blurs scope') (name : String) :
    Follows (varType scope name) (varType scope' name) := by
  intro type found
  obtain ⟨type', found', types⟩ := blurs.read (Scope.solid_bare name) (Scope.read_bare.mpr found)
  exact ⟨type', Scope.read_bare.mp found', types⟩

theorem field_follows {node : Node} {base : Expr} {name : String} {nullSafe : Bool} (blurs : scope.Blurs scope')
    (part : (base.infer context scope).type.Normal) (part' : (base.infer context scope').type.Normal)
    (bases : (base.infer context scope).type.Blurs (base.infer context scope').type)
    (clean : ((field node base name nullSafe).infer context scope).log.Clean typeOf (field node base name nullSafe).subterms) :
    Follows
      (fieldType scope (field node base name nullSafe).refKey? (base.infer context scope).type name nullSafe)
      (fieldType scope' (field node base name nullSafe).refKey? (base.infer context scope').type name nullSafe) := by
  cases whole : (field node base name nullSafe).refKey? with
  | none => exact access_field_follows part part' bases name nullSafe
  | some key =>
    obtain ⟨solid, found⟩ := read_of_clean _ whole clean
    obtain ⟨type', found', types⟩ := blurs.read solid found
    obtain ⟨present, outer, denotes, same⟩ := refKey?_field.mp whole
    subst present same
    rw [infer_field, whole] at found types
    rw [infer_field] at clean
    intro type rule
    rw [rule] at types
    exact ⟨type', fieldType_of_read found' fun inner read => infer_of_read context base denotes read, types⟩

theorem call_plain {node : Node} {name : String} {args : List Expr}
    (clean : (Log.concat ((inferAll context scope args).map Typed.log)).Clean typeOf (subtermsOf args))
    (plain : (call node name args).plain typeOf = true) (keys : name = "keys") :
    (((inferAll context scope args).map Typed.type).getD 0 .unknown).isChoice = false := by
  subst keys
  cases args with
  | nil => rfl
  | cons arg rest =>
    rw [inferAll, List.map_cons, Log.concat, subtermsOf] at clean
    rw [Expr.plain, clean.append.1.typeOf_self] at plain
    rw [inferAll, List.map_cons, List.getD_cons_zero]
    simpa using plain

-- Where less is known of the scope, an expression that nothing is wrong with stays right,
-- and no more becomes known of its type.
mutual
theorem infer_blurs (regular : context.Regular) : ∀ (expr : Expr) {scope scope' : Scope}, expr.ids.Nodup →
    scope.Blurs scope' → (expr.infer context scope).log.Clean typeOf expr.subterms →
    (expr.infer context scope).Follows (expr.infer context scope')
  | null _, _, _, _, _, _ => ⟨rfl, Ty.blurs_self .null⟩
  | bool _ _, _, _, _, _, _ => ⟨rfl, Ty.blurs_self .bool⟩
  | int _ _, _, _, _, _, _ => ⟨rfl, Ty.blurs_self .int⟩
  | float _ _, _, _, _, _, _ => ⟨rfl, Ty.blurs_self .float⟩
  | string _ _, _, _, _, _, _ => ⟨rfl, Ty.blurs_self .string⟩
  | list node items, scope, scope', distinct, blurs, clean => by
    have distinct := (distinct_append distinct).1
    rw [infer, subterms] at clean
    obtain ⟨inner, right, _⟩ := clean.settle
    obtain ⟨inner', types⟩ := inferAll_blurs regular items distinct blurs inner
    rw [infer, infer]
    apply settle_follows right inner'
    apply judged_follows
    apply follows_ok
    exact (Ty.Alike.list (Ty.unionOf_blurs_each (inferAll_normal regular blurs.normal items)
      (inferAll_normal regular blurs.normal' items) types)).blurs
  | map node entries, scope, scope', distinct, blurs, clean => by
    have distinct := (distinct_append distinct).1
    rw [infer, subterms] at clean
    obtain ⟨inner, right, _⟩ := clean.settle
    obtain ⟨inner', keys, values⟩ := inferEntries_blurs regular entries distinct blurs inner
    obtain ⟨first, second⟩ := inferEntries_normal regular blurs.normal entries
    obtain ⟨first', second'⟩ := inferEntries_normal regular blurs.normal' entries
    rw [infer, infer]
    apply settle_follows right inner'
    exact literalType_follows _ first first' second second' keys values
  | var node name, scope, scope', _, blurs, clean => by
    rw [infer] at clean
    have clean : (settle node .empty (judged node (varType scope name))).log.Clean typeOf ([] ++ [var node name]) := clean
    rw [infer, infer]
    apply settle_follows clean.settle.2.1 rfl
    apply judged_follows
    exact varType_follows blurs name
  | field node base name nullSafe, scope, scope', distinct, blurs, clean => by
    have distinct := (distinct_append distinct).1
    have whole := clean
    rw [infer_field, subterms] at clean
    obtain ⟨inner, right, _⟩ := clean.settle
    have bases := infer_blurs regular base distinct blurs inner
    rw [infer_field, infer_field]
    apply settle_follows right bases.diagnostics
    apply judged_follows
    exact field_follows blurs (infer_normal regular blurs.normal base)
      (infer_normal regular blurs.normal' base) bases.blurs whole
  | index node base key nullSafe, scope, scope', distinct, blurs, clean => by
    obtain ⟨distinct, distinct'⟩ := distinct_append (distinct_append distinct).1
    rw [infer, subterms] at clean
    obtain ⟨inner, right, _⟩ := clean.settle
    have bases := infer_blurs regular base distinct blurs inner.append.1
    have keys := infer_blurs regular key distinct' blurs inner.append.2
    rw [infer, infer]
    apply settle_follows right (Log.no_diagnostics_append bases.diagnostics keys.diagnostics)
    apply judged_follows
    exact access_index_follows (infer_normal regular blurs.normal base)
      (infer_normal regular blurs.normal' base) bases.blurs (infer_normal regular blurs.normal key)
      (infer_normal regular blurs.normal' key) keys.blurs key nullSafe
  | unary node operator operand, scope, scope', distinct, blurs, clean => by
    have distinct := (distinct_append distinct).1
    rw [infer, subterms] at clean
    obtain ⟨inner, right, _⟩ := clean.settle
    have operands := infer_blurs regular operand distinct blurs inner
    rw [infer, infer]
    apply settle_follows right operands.diagnostics
    apply judged_follows
    exact unaryType_follows _ operator (infer_normal regular blurs.normal operand)
      (infer_normal regular blurs.normal' operand) operands.blurs
  | binary node operator left right, scope, scope', distinct, blurs, clean => by
    obtain ⟨distinct, distinct'⟩ := distinct_append (distinct_append distinct).1
    rw [infer, subterms] at clean
    obtain ⟨inner, rule, _⟩ := clean.settle
    obtain ⟨first, second⟩ := inner.append
    have known := rightScope_blurs operator left distinct blurs first
    have lefts := infer_blurs regular left distinct blurs first
    have rights := infer_blurs regular right distinct' known second
    rw [infer, infer]
    apply settle_follows rule (Log.no_diagnostics_append lefts.diagnostics rights.diagnostics)
    apply judged_follows
    exact binaryType_follows _ operator (infer_normal regular blurs.normal left)
      (infer_normal regular blurs.normal' left) (infer_normal regular known.normal right)
      (infer_normal regular known.normal' right) lefts.blurs rights.blurs
  | conditional node condition thenValue elseValue, scope, scope', distinct, blurs, clean => by
    obtain ⟨distinct, distinct''⟩ := distinct_append (distinct_append distinct).1
    obtain ⟨distinct, distinct'⟩ := distinct_append distinct
    rw [infer, subterms] at clean
    obtain ⟨inner, rule, _⟩ := clean.settle
    obtain ⟨inner, third⟩ := inner.append
    obtain ⟨first, second⟩ := inner.append
    obtain ⟨held, failed⟩ := refine_blurs condition distinct blurs first
    have held := blurs.under held
    have failed := blurs.under failed
    have conditions := infer_blurs regular condition distinct blurs first
    have thens := infer_blurs regular thenValue distinct' held second
    have elses := infer_blurs regular elseValue distinct'' failed third
    rw [infer, infer]
    apply settle_follows rule
      (Log.no_diagnostics_append (Log.no_diagnostics_append conditions.diagnostics thens.diagnostics) elses.diagnostics)
    apply judged_follows
    apply follows_ok
    exact Ty.join_blurs (infer_normal regular held.normal thenValue)
      (infer_normal regular held.normal' thenValue) (infer_normal regular failed.normal elseValue)
      (infer_normal regular failed.normal' elseValue) thens.blurs elses.blurs
  | call node name args, scope, scope', distinct, blurs, clean => by
    have distinct := (distinct_append distinct).1
    rw [infer, subterms] at clean
    obtain ⟨inner, right, plain⟩ := clean.settle
    obtain ⟨inner', types⟩ := inferAll_blurs regular args distinct blurs inner
    rw [infer, infer]
    apply settle_follows right inner'
    exact callType_follows regular node name args (inferAll_normal regular blurs.normal args)
      (inferAll_normal regular blurs.normal' args) types (call_plain inner plain)

theorem inferAll_blurs (regular : context.Regular) : ∀ (exprs : List Expr) {scope scope' : Scope},
    ((subtermsOf exprs).map id).Nodup → scope.Blurs scope' →
    (Log.concat ((inferAll context scope exprs).map Typed.log)).Clean typeOf (subtermsOf exprs) →
    (Log.concat ((inferAll context scope' exprs).map Typed.log)).diagnostics = [] ∧
      List.Forall₂ Ty.Blurs ((inferAll context scope exprs).map Typed.type) ((inferAll context scope' exprs).map Typed.type)
  | [], _, _, _, _, _ => ⟨rfl, .nil⟩
  | expr :: rest, scope, scope', distinct, blurs, clean => by
    obtain ⟨distinct, distinct'⟩ := distinct_append distinct
    rw [inferAll, subtermsOf, List.map_cons, Log.concat] at clean
    obtain ⟨first, others⟩ := clean.append
    have head := infer_blurs regular expr distinct blurs first
    obtain ⟨right, types⟩ := inferAll_blurs regular rest distinct' blurs others
    simp only [inferAll, List.map_cons, Log.concat]
    exact ⟨Log.no_diagnostics_append head.diagnostics right, .cons head.blurs types⟩

theorem inferEntries_blurs (regular : context.Regular) : ∀ (entries : List (Expr × Expr)) {scope scope' : Scope},
    ((subtermsOfEntries entries).map id).Nodup → scope.Blurs scope' →
    (Log.concat ((inferEntries context scope entries).map fun part => part.1.log ++ part.2.log)).Clean typeOf
      (subtermsOfEntries entries) →
    (Log.concat ((inferEntries context scope' entries).map fun part => part.1.log ++ part.2.log)).diagnostics = [] ∧
      List.Forall₂ Ty.Blurs ((inferEntries context scope entries).map fun part => part.1.type)
          ((inferEntries context scope' entries).map fun part => part.1.type) ∧
        List.Forall₂ Ty.Blurs ((inferEntries context scope entries).map fun part => part.2.type)
          ((inferEntries context scope' entries).map fun part => part.2.type)
  | [], _, _, _, _, _ => ⟨rfl, .nil, .nil⟩
  | (key, value) :: rest, scope, scope', distinct, blurs, clean => by
    obtain ⟨distinct, distinct''⟩ := distinct_append distinct
    obtain ⟨distinct, distinct'⟩ := distinct_append distinct
    rw [inferEntries, subtermsOfEntries, List.map_cons, Log.concat] at clean
    obtain ⟨inner, others⟩ := clean.append
    obtain ⟨first, second⟩ := inner.append
    have keys := infer_blurs regular key distinct blurs first
    have values := infer_blurs regular value distinct' blurs second
    obtain ⟨right, types, types'⟩ := inferEntries_blurs regular rest distinct'' blurs others
    simp only [inferEntries, List.map_cons, Log.concat]
    exact ⟨Log.no_diagnostics_append (Log.no_diagnostics_append keys.diagnostics values.diagnostics) right,
      .cons keys.blurs types, .cons values.blurs types'⟩
end

end Expr
end TypedTemplate
