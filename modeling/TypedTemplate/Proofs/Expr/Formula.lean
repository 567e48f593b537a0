import TypedTemplate.Proofs.Expr.Numbers
import TypedTemplate.Proofs.Scope

namespace TypedTemplate

-- What a condition says, as far as tests for null are concerned. Everything else in
-- it may turn out either way.
inductive Formula where
  | test (nonNull : Bool) (reference : Expr) (key : RefKey) (denotes : reference.refKey? = some key)
  | other (condition : Expr)
  | negation (operand : Formula)
  | both (left right : Formula)
  | either (left right : Formula)

namespace Formula

def ofTest (condition : Expr) (nonNull : Bool) (subject : Expr) : Formula :=
  match denotes : subject.refKey? with
  | some key => test nonNull subject key denotes
  | none => other condition

def ofComparison (condition : Expr) (nonNull : Bool) (left right : Expr) : Formula :=
  if right.isNull then ofTest condition nonNull left
  else if left.isNull then ofTest condition nonNull right
  else other condition

end Formula

def Expr.formula (modern : Bool) : Expr → Formula
  | binary node .notEquals left right => .ofComparison (binary node .notEquals left right) true left right
  | binary node .equals left right => .ofComparison (binary node .equals left right) false left right
  | binary _ .and left right => .both (left.formula modern) (right.formula modern)
  | binary _ .or left right => .either (left.formula modern) (right.formula modern)
  | unary _ .not operand => .negation (operand.formula modern)
  | call node "isNonnull" [arg] => .ofTest (call node "isNonnull" [arg]) true arg
  | var node name => if modern then .ofTest (var node name) true (var node name) else .other (var node name)
  | field node base name nullSafe =>
    if modern then .ofTest (field node base name nullSafe) true (field node base name nullSafe)
    else .other (field node base name nullSafe)
  | condition => .other condition

namespace Formula

def learn (key : RefKey) (type : Ty) : Refinements :=
  if type.isNullable then ⟨[(key, type.removeNull)], [(key, .null)]⟩ else .none

-- What a condition tells, from the types that its references have where they stand.
-- The right side of a connective is reached only if the left side did not decide.
def evidence (context : Context) (scope : Scope) : Formula → Refinements
  | test true reference key _ => learn key (reference.infer context scope).type
  | test false reference key _ => (learn key (reference.infer context scope).type).swap
  | other _ => .none
  | negation operand => (evidence context scope operand).swap
  | both left right =>
    let first := evidence context scope left
    first.both (evidence context (scope.under first.whenTrue) right)
  | either left right =>
    let first := evidence context scope left
    first.either (evidence context (scope.under first.whenFalse) right)

theorem learn_sorted (key : RefKey) (type : Ty) : (learn key type).Sorted := by
  unfold learn
  split
  · exact ⟨List.pairwise_singleton _ _, List.pairwise_singleton _ _⟩
  · exact .none

theorem evidence_sorted (context : Context) (formula : Formula) (scope : Scope) :
    (formula.evidence context scope).Sorted := by
  induction formula generalizing scope with
  | test nonNull reference key denotes =>
    cases nonNull with
    | true => exact learn_sorted _ _
    | false => exact (learn_sorted _ _).swap
  | other condition => exact .none
  | negation operand ih => exact (ih scope).swap
  | both left right first second => exact (first scope).both
  | either left right first second => exact (first scope).either

def Each (context : Context) (holds : Scope → Expr → RefKey → Prop) (scope : Scope) : Formula → Prop
  | test _ reference key _ => holds scope reference key
  | other _ => True
  | negation operand => Each context holds scope operand
  | both left right =>
    Each context holds scope left ∧ Each context holds (scope.under (left.evidence context scope).whenTrue) right
  | either left right =>
    Each context holds scope left ∧ Each context holds (scope.under (left.evidence context scope).whenFalse) right

def Recorded (context : Context) (typeOf : Nat → Option Ty) : Scope → Formula → Prop :=
  Each context fun scope reference _ => typeOf reference.id = some (reference.infer context scope).type

variable {context : Context} {holds : Scope → Expr → RefKey → Prop} {scope : Scope}

theorem ofTest_each {condition subject : Expr} {nonNull : Bool}
    (found : ∀ key, subject.refKey? = some key → holds scope subject key) :
    (ofTest condition nonNull subject).Each context holds scope := by
  unfold ofTest
  split
  · rename_i key denotes
    exact found key denotes
  · exact trivial

theorem ofComparison_each {condition left right : Expr} {nonNull : Bool}
    (first : ∀ key, left.refKey? = some key → holds scope left key)
    (second : ∀ key, right.refKey? = some key → holds scope right key) :
    (ofComparison condition nonNull left right).Each context holds scope := by
  unfold ofComparison
  split
  · exact ofTest_each first
  · split
    · exact ofTest_each second
    · exact trivial

end Formula

namespace Expr

open Formula

variable {context : Context} {typeOf : Nat → Option Ty}

theorem refineNonNull_eq_learn {subject : Expr} {key : RefKey} {type : Ty} (reference : subject.refKey? = some key)
    (found : typeOf subject.id = some type) : refineNonNull typeOf subject = learn key type := by
  rw [refineNonNull, reference, found]
  rfl

theorem refineNonNull_of_refKey?_none {subject : Expr} (none : subject.refKey? = none) :
    refineNonNull typeOf subject = .none := by
  rw [refineNonNull, none]

theorem evidence_ofTest {scope : Scope} {condition subject : Expr} {nonNull : Bool}
    (recorded : (ofTest condition nonNull subject).Recorded context typeOf scope) :
    (ofTest condition nonNull subject).evidence context scope =
      if nonNull then refineNonNull typeOf subject else (refineNonNull typeOf subject).swap := by
  unfold ofTest at recorded ⊢
  split at recorded
  · rename_i key denotes
    rw [refineNonNull_eq_learn denotes recorded]
    cases nonNull <;> rfl
  · rename_i none
    rw [refineNonNull_of_refKey?_none none]
    cases nonNull <;> rfl

theorem evidence_ofComparison {scope : Scope} {condition left right : Expr} {nonNull : Bool}
    (recorded : (ofComparison condition nonNull left right).Recorded context typeOf scope) :
    (ofComparison condition nonNull left right).evidence context scope =
      if nonNull then refineNullComparison typeOf left right else (refineNullComparison typeOf left right).swap := by
  unfold ofComparison refineNullComparison at *
  split
  · rename_i null
    rw [if_pos null] at recorded
    exact evidence_ofTest recorded
  · rename_i present
    rw [if_neg present] at recorded
    split
    · rename_i null
      rw [if_pos null] at recorded
      exact evidence_ofTest recorded
    · cases nonNull <;> rfl

-- What a condition tells depends only on the types of the references tested in it.
theorem refine_of_recorded (expr : Expr) (scope : Scope)
    (recorded : (expr.formula context.version.isModern).Recorded context typeOf scope) :
    expr.refine typeOf context.version.isModern = (expr.formula context.version.isModern).evidence context scope := by
  induction expr using refine.induct generalizing scope with
  | case1 node left right | case2 node left right =>
    rw [formula] at recorded ⊢
    rw [refine, evidence_ofComparison recorded]
    rfl
  | case3 node left right first second | case4 node left right first second =>
    rw [formula] at recorded ⊢
    rw [refine, evidence, first scope recorded.1, second _ recorded.2]
  | case5 node operand ih =>
    rw [formula] at recorded ⊢
    rw [refine, evidence, ih scope recorded]
  | case6 node arg =>
    rw [formula] at recorded ⊢
    rw [refine, evidence_ofTest recorded]
    rfl
  | case7 node name | case8 node base name nullSafe =>
    rw [formula] at recorded ⊢
    rw [refine, refineBare]
    split
    · rename_i modern
      rw [if_pos modern] at recorded
      rw [evidence_ofTest recorded]
      rfl
    · rfl
  | case9 condition comparison comparison' conjunction disjunction negation call var field =>
    rw [refine.eq_9 _ _ _ comparison comparison' conjunction disjunction negation call var field,
      formula.eq_9 _ _ comparison comparison' conjunction disjunction negation call var field]
    rfl

theorem typeOf_settle {node : Node} {parts : Log} {verdict : Verdict} {id : Nat} (other : id ≠ node.id) :
    (settle node parts verdict).log.typeOf id = parts.typeOf id := by
  rw [Log.typeOf, types_settle, List.lookup_cons, beq_eq_false_iff_ne.mpr other]
  rfl

theorem ids_unary (node : Node) (operator : UnaryOperator) (operand : Expr) :
    (unary node operator operand).ids = operand.ids ++ [node.id] := by simp [ids, subterms, id, Expr.node]

theorem ids_binary (node : Node) (operator : BinaryOperator) (left right : Expr) :
    (binary node operator left right).ids = left.ids ++ right.ids ++ [node.id] := by
  simp [ids, subterms, id, Expr.node]

theorem distinct_unary {node : Node} {operator : UnaryOperator} {operand : Expr}
    (distinct : (unary node operator operand).ids.Nodup) : operand.ids.Nodup := by
  rw [ids_unary, List.nodup_append] at distinct
  exact distinct.1

theorem typeOf_unary {scope : Scope} {node : Node} {operator : UnaryOperator} {operand : Expr}
    (distinct : (unary node operator operand).ids.Nodup) {id : Nat} (inside : id ∈ operand.ids) :
    ((unary node operator operand).infer context scope).log.typeOf id = (operand.infer context scope).log.typeOf id := by
  rw [ids_unary, List.nodup_append] at distinct
  rw [infer]
  exact typeOf_settle (distinct.2.2 id inside node.id (by simp))

section binary

variable {scope : Scope} {node : Node} {operator : BinaryOperator} {left right : Expr}
  (distinct : (binary node operator left right).ids.Nodup)
include distinct

theorem distinct_binary : left.ids.Nodup ∧ right.ids.Nodup := by
  rw [ids_binary, List.nodup_append, List.nodup_append] at distinct
  exact ⟨distinct.1.1, distinct.1.2.1⟩

theorem typeOf_binary_left {id : Nat} (inside : id ∈ left.ids) :
    ((binary node operator left right).infer context scope).log.typeOf id = (left.infer context scope).log.typeOf id := by
  rw [ids_binary, List.nodup_append, List.nodup_append] at distinct
  rw [infer, typeOf_settle (distinct.2.2 id (List.mem_append_left _ inside) node.id (by simp))]
  refine Log.typeOf_append_left fun present => ?_
  exact distinct.1.2.2 id inside id (mem_numbers_infer.mp present) rfl

theorem typeOf_binary_right {id : Nat} (inside : id ∈ right.ids) :
    ((binary node operator left right).infer context scope).log.typeOf id =
      (right.infer context (rightScope context.version.isModern scope operator left (left.infer context scope))).log.typeOf id := by
  rw [ids_binary, List.nodup_append] at distinct
  rw [infer, typeOf_settle (distinct.2.2 id (List.mem_append_right _ inside) node.id (by simp))]
  exact Log.typeOf_append_right (mem_numbers_infer.mpr inside)

end binary

theorem formula_recorded (context : Context) (expr : Expr) (scope : Scope) (typeOf : Nat → Option Ty)
    (distinct : expr.ids.Nodup) (found : ∀ id ∈ expr.ids, typeOf id = (expr.infer context scope).log.typeOf id) :
    (expr.formula context.version.isModern).Recorded context typeOf scope := by
  induction expr using refine.induct generalizing scope typeOf with
  | case1 node left right | case2 node left right =>
    have first := (found left.id (by simp [ids_binary, id_mem_ids])).trans (typeOf_binary_left distinct left.id_mem_ids)
    have second := (found right.id (by simp [ids_binary, id_mem_ids])).trans (typeOf_binary_right distinct right.id_mem_ids)
    rw [formula]
    exact ofComparison_each (fun _ _ => first.trans (typeOf_infer_self context scope left))
      (fun _ _ => second.trans (typeOf_infer_self context scope right))
  | case3 node left right first second | case4 node left right first second =>
    obtain ⟨distinct', distinct''⟩ := distinct_binary distinct
    have known := refine_of_recorded left scope (first scope _ distinct' fun _ _ => rfl)
    have told := first scope typeOf distinct' fun id inside =>
      (found id (by simp [ids_binary, inside])).trans (typeOf_binary_left distinct inside)
    have told' := second _ typeOf distinct'' fun id inside =>
      (found id (by simp [ids_binary, inside])).trans (typeOf_binary_right distinct inside)
    simp only [rightScope, known] at told'
    rw [formula]
    exact ⟨told, told'⟩
  | case5 node operand ih =>
    rw [formula]
    exact ih scope typeOf (distinct_unary distinct) fun id inside =>
      (found id (by simp [ids_unary, inside])).trans (typeOf_unary distinct inside)
  | case6 node arg =>
    have ids_call : (call node "isNonnull" [arg]).ids = arg.ids ++ [node.id] := by
      simp [ids, subterms, subtermsOf, id, Expr.node]
    have recorded : typeOf arg.id = some (arg.infer context scope).type := by
      rw [ids_call, List.nodup_append] at distinct
      rw [found arg.id (by simp [ids_call, id_mem_ids]), infer,
        typeOf_settle (distinct.2.2 arg.id arg.id_mem_ids node.id (by simp))]
      simp only [inferAll, List.map_cons, List.map_nil, Log.concat, Log.append_empty, typeOf_infer_self]
    rw [formula]
    exact ofTest_each fun _ _ => recorded
  | case7 node name | case8 node base name nullSafe =>
    have recorded := (found _ (id_mem_ids _)).trans (typeOf_infer_self context scope _)
    rw [formula]
    split
    · exact ofTest_each fun _ _ => recorded
    · exact trivial
  | case9 condition comparison comparison' conjunction disjunction negation call var field =>
    rw [formula.eq_9 _ _ comparison comparison' conjunction disjunction negation call var field]
    exact trivial

theorem refine_infer (context : Context) (expr : Expr) (scope : Scope) (distinct : expr.ids.Nodup) :
    expr.refine (expr.infer context scope).log.typeOf context.version.isModern =
      (expr.formula context.version.isModern).evidence context scope :=
  refine_of_recorded expr scope (formula_recorded context expr scope _ distinct fun _ _ => rfl)

theorem refine_rec {motive : Refinements → Prop} (none : motive .none)
    (swap : ∀ {known}, motive known → motive known.swap) (both : ∀ {a b}, motive a → motive b → motive (a.both b))
    (either : ∀ {a b}, motive a → motive b → motive (a.either b)) (modern : Bool) (condition : Expr)
    (test : ∀ part ∈ condition.subterms, motive (refineNonNull typeOf part)) :
    motive (condition.refine typeOf modern) := by
  have comparison {left right : Expr} (first : motive (refineNonNull typeOf left))
      (second : motive (refineNonNull typeOf right)) : motive (refineNullComparison typeOf left right) := by
    unfold refineNullComparison
    split
    · exact first
    · split
      · exact second
      · exact none
  have bare {expr : Expr} (test : motive (refineNonNull typeOf expr)) : motive (refineBare typeOf modern expr) := by
    unfold refineBare
    split
    · exact test
    · exact none
  induction condition using refine.induct with
  | case1 node left right =>
    rw [subterms, List.forall_mem_append, List.forall_mem_append] at test
    exact comparison (test.1.1 left left.self_mem_subterms) (test.1.2 right right.self_mem_subterms)
  | case2 node left right =>
    rw [subterms, List.forall_mem_append, List.forall_mem_append] at test
    exact swap (comparison (test.1.1 left left.self_mem_subterms) (test.1.2 right right.self_mem_subterms))
  | case3 node left right first second =>
    rw [subterms, List.forall_mem_append, List.forall_mem_append] at test
    exact both (first test.1.1) (second test.1.2)
  | case4 node left right first second =>
    rw [subterms, List.forall_mem_append, List.forall_mem_append] at test
    exact either (first test.1.1) (second test.1.2)
  | case5 node operand ih =>
    rw [subterms, List.forall_mem_append] at test
    exact swap (ih test.1)
  | case6 node arg =>
    rw [subterms, List.forall_mem_append, subtermsOf, List.forall_mem_append] at test
    exact test.1.1 arg arg.self_mem_subterms
  | case7 node name | case8 node base name nullSafe => exact bare (test _ (self_mem_subterms _))
  | case9 condition comparison comparison' conjunction disjunction negation call var field =>
    rw [refine.eq_9 _ _ _ comparison comparison' conjunction disjunction negation call var field]
    exact none

theorem refine_congr {typeOf' : Nat → Option Ty} (modern : Bool) (condition : Expr)
    (same : ∀ id ∈ condition.ids, typeOf id = typeOf' id) : condition.refine typeOf modern = condition.refine typeOf' modern := by
  have test (part : Expr) (found : typeOf part.id = typeOf' part.id) :
      refineNonNull typeOf part = refineNonNull typeOf' part := by rw [refineNonNull, refineNonNull, found]
  have comparison {left right : Expr} (first : typeOf left.id = typeOf' left.id)
      (second : typeOf right.id = typeOf' right.id) :
      refineNullComparison typeOf left right = refineNullComparison typeOf' left right := by
    rw [refineNullComparison, refineNullComparison, test left first, test right second]
  induction condition using refine.induct with
  | case1 node left right | case2 node left right =>
    have first := same left.id (by simp [ids_binary, id_mem_ids])
    have second := same right.id (by simp [ids_binary, id_mem_ids])
    rw [refine, refine, comparison first second]
  | case3 node left right first second | case4 node left right first second =>
    rw [refine, refine, first fun id inside => same id (by simp [ids_binary, inside]),
      second fun id inside => same id (by simp [ids_binary, inside])]
  | case5 node operand ih => rw [refine, refine, ih fun id inside => same id (by simp [ids_unary, inside])]
  | case6 node arg =>
    have inside : arg ∈ (call node "isNonnull" [arg]).subterms := by
      simp [subterms, subtermsOf, self_mem_subterms]
    rw [refine, refine, test arg (same arg.id (List.mem_map_of_mem inside))]
  | case7 node name | case8 node base name nullSafe =>
    rw [refine, refine, refineBare, refineBare, test _ (same _ (id_mem_ids _))]
  | case9 condition comparison comparison' conjunction disjunction negation call var field =>
    rw [refine.eq_9 _ _ _ comparison comparison' conjunction disjunction negation call var field,
      refine.eq_9 _ _ _ comparison comparison' conjunction disjunction negation call var field]

theorem refineNonNull_sorted (typeOf : Nat → Option Ty) (expr : Expr) : (refineNonNull typeOf expr).Sorted := by
  unfold refineNonNull
  split
  · split
    · exact ⟨List.pairwise_singleton _ _, List.pairwise_singleton _ _⟩
    · exact .none
  · exact .none

theorem refine_sorted (typeOf : Nat → Option Ty) (modern : Bool) (condition : Expr) :
    (condition.refine typeOf modern).Sorted :=
  refine_rec .none (fun sorted => sorted.swap) (fun first _ => first.both) (fun first _ => first.either) modern condition
    fun part _ => refineNonNull_sorted typeOf part

end Expr
end TypedTemplate
