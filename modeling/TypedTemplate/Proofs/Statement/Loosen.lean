import TypedTemplate.Proofs.Expr.BlurInfer
import TypedTemplate.Proofs.Statement.BlurScope
import TypedTemplate.Proofs.Statement.Numbers
import TypedTemplate.Session

namespace TypedTemplate

structure Checked.Follows (checked checked' : Checked) : Prop where
  diagnostics : checked'.log.diagnostics = []
  scope : checked.scope.BlursHere checked'.scope

namespace Statement

-- Any number of parameters, wherever they stand, have `?` in place of their annotations.
mutual
inductive Loosens : Statement → Statement → Prop where
  | text (content : String) (span : Span) : Loosens (.text content span) (.text content span)
  | print (expr : Expr) (directives : List String) (span : Span) :
    Loosens (.print expr directives span) (.print expr directives span)
  | keep (name : String) (kind : ParamKind) (typeExpr : TypeExpr) (span : Span) :
    Loosens (.param name kind typeExpr span) (.param name kind typeExpr span)
  | loosen (name : String) (kind : ParamKind) (typeExpr : TypeExpr) (position : Position) (span : Span) :
    Loosens (.param name kind typeExpr span) (.param name kind (.named "?" position) span)
  | letValue (name : String) (value : Expr) (span : Span) :
    Loosens (.letValue name value span) (.letValue name value span)
  | letBlock (name : String) {body body' : List Statement} (span : Span) (inner : LoosensBody body body') :
    Loosens (.letBlock name body span) (.letBlock name body' span)
  | choose {branches branches' : List (Branch (List Statement))} {otherwise otherwise' : Option (List Statement)}
    (span : Span) (tried : LoosensBranches branches branches') (last : LoosensOptional otherwise otherwise') :
    Loosens (.choose branches otherwise span) (.choose branches' otherwise' span)
  | foreach (var : String) (iterable : Expr) {body body' : List Statement} {ifEmpty ifEmpty' : Option (List Statement)}
    (span : Span) (inner : LoosensBody body body') (last : LoosensOptional ifEmpty ifEmpty') :
    Loosens (.foreach var iterable body ifEmpty span) (.foreach var iterable body' ifEmpty' span)

inductive LoosensBody : List Statement → List Statement → Prop where
  | nil : LoosensBody [] []
  | cons {statement statement' : Statement} {rest rest' : List Statement} (first : Loosens statement statement')
    (others : LoosensBody rest rest') : LoosensBody (statement :: rest) (statement' :: rest')

inductive LoosensBranches : List (Branch (List Statement)) → List (Branch (List Statement)) → Prop where
  | nil : LoosensBranches [] []
  | cons (condition : Expr) (span : Span) {body body' : List Statement} {rest rest' : List (Branch (List Statement))}
    (inner : LoosensBody body body') (others : LoosensBranches rest rest') :
    LoosensBranches (⟨condition, body, span⟩ :: rest) (⟨condition, body', span⟩ :: rest')

inductive LoosensOptional : Option (List Statement) → Option (List Statement) → Prop where
  | none : LoosensOptional none none
  | some {body body' : List Statement} (inner : LoosensBody body body') : LoosensOptional (some body) (some body')
end

mutual
theorem loosens_self : ∀ statement : Statement, Loosens statement statement
  | .text _ _ => .text _ _
  | .print _ _ _ => .print _ _ _
  | .param _ _ _ _ => .keep _ _ _ _
  | .letValue _ _ _ => .letValue _ _ _
  | .letBlock _ body _ => .letBlock _ _ (loosensBody_self body)
  | .choose branches none _ => .choose _ (loosensBranches_self branches) .none
  | .choose branches (some body) _ => .choose _ (loosensBranches_self branches) (.some (loosensBody_self body))
  | .foreach _ _ body none _ => .foreach _ _ _ (loosensBody_self body) .none
  | .foreach _ _ body (some ifEmpty) _ => .foreach _ _ _ (loosensBody_self body) (.some (loosensBody_self ifEmpty))

theorem loosensBody_self : ∀ body : List Statement, LoosensBody body body
  | [] => .nil
  | statement :: rest => .cons (loosens_self statement) (loosensBody_self rest)

theorem loosensBranches_self : ∀ branches : List (Branch (List Statement)), LoosensBranches branches branches
  | [] => .nil
  | ⟨_, body, _⟩ :: rest => .cons _ _ (loosensBody_self body) (loosensBranches_self rest)
end

variable {context : Context} {scope scope' : Scope} {symbol symbol' : Symbol} {position : Position} {log log' : Log}
  {typeOf : Nat → Option Ty}

theorem clean_declare {terms : List Expr} (clean : (declare scope symbol position log).log.Clean typeOf terms) :
    log.Clean typeOf terms := by
  unfold declare at clean
  split at clean
  · exact clean
  · rw [← List.append_nil terms] at clean
    exact clean.append.1

theorem declare_follows (blurs : scope.BlursHere scope') (symbols : symbol.Blurs symbol')
    (clean : (declare scope symbol position log).log.diagnostics = []) (right : log'.diagnostics = []) :
    (declare scope symbol position log).Follows (declare scope' symbol' position log') := by
  unfold declare at clean ⊢
  cases opened : scope.declare symbol with
  | ok declared =>
    obtain ⟨declared', opened', after⟩ := blurs.declare symbols opened
    rw [opened']
    exact ⟨right, after⟩
  | error fault =>
    rw [opened, Log.diagnostics_append] at clean
    cases (List.append_eq_nil_iff.mp clean).2

theorem loopVar_normal (iterable : Expr) {type : Ty} (normal : type.Normal) : (loopVar iterable type).1.Normal := by
  unfold loopVar
  split
  · rename_i element found
    exact Ty.Kept.normals.element normal found
  · exact .unknown

theorem loopVar_follows (iterable : Expr) {type type' : Ty} (normal : type.Normal) (normal' : type'.Normal)
    (blurs : type.Blurs type') (clean : (loopVar iterable type).2 = []) :
    (loopVar iterable type').2 = [] ∧ (loopVar iterable type).1.Blurs (loopVar iterable type').1 := by
  unfold loopVar at clean ⊢
  cases found : Ty.element type with
  | ok element =>
    obtain ⟨element', found', elements⟩ := Ty.element_follows normal normal' blurs element found
    rw [found']
    exact ⟨rfl, elements⟩
  | error fault =>
    rw [found] at clean
    cases clean

theorem openLoop_follows (regular : context.Regular) (name : String) (iterable : Expr) (span : Span)
    (distinct : iterable.ids.Nodup) (blurs : scope.Blurs scope')
    (clean : (openLoop context scope name iterable span).log.Clean typeOf iterable.subterms) :
    (openLoop context scope name iterable span).Follows (openLoop context scope' name iterable span) := by
  rw [openLoop, ← List.append_nil iterable.subterms] at clean
  obtain ⟨first, opened⟩ := clean.append
  have typed := Expr.infer_blurs regular iterable distinct blurs first
  have normal := Expr.infer_normal regular blurs.normal iterable
  have normal' := Expr.infer_normal regular blurs.normal' iterable
  obtain ⟨right, elements⟩ := loopVar_follows iterable normal normal' typed.blurs (clean_declare opened).diagnostics
  have right : Log.diagnostics ⟨[], (loopVar iterable (iterable.infer context scope').type).2⟩ = [] := right
  have symbols : Symbol.Blurs ⟨name, .localBinding, (loopVar iterable (iterable.infer context scope).type).1⟩
      ⟨name, .localBinding, (loopVar iterable (iterable.infer context scope').type).1⟩ :=
    ⟨rfl, rfl, loopVar_normal iterable normal, loopVar_normal iterable normal', elements⟩
  obtain ⟨right', after⟩ := declare_follows blurs.enter_here symbols opened.diagnostics right
  exact ⟨Log.no_diagnostics_append typed.diagnostics right', after⟩

-- Loosened statements have the expressions of the original ones, and where less is known
-- of the scope nothing becomes wrong with them.
mutual
theorem check_loosens (regular : context.Regular) : ∀ {statement statement' : Statement}, Loosens statement statement' →
    ∀ {scope scope' : Scope}, (∀ expr ∈ statement.expressions, expr.ids.Nodup) → scope.BlursHere scope' →
      (statement.check context scope).log.Clean typeOf (statement.expressions.flatMap Expr.subterms) →
      (statement.check context scope).Follows (statement'.check context scope')
  | _, _, .text _ _, _, _, _, blurs, _ => ⟨rfl, blurs⟩
  | _, _, .print expr _ _, scope, scope', distinct, blurs, clean => by
    rw [check, expressions, List.flatMap_singleton] at clean
    rw [check, check]
    have typed := Expr.infer_blurs regular expr (distinct expr List.mem_cons_self) blurs.toBlurs clean
    exact ⟨typed.diagnostics, blurs⟩
  | _, _, .keep name kind typeExpr span, scope, scope', _, blurs, clean => by
    rw [check] at clean ⊢
    rw [check]
    cases resolved : typeExpr.resolve context.typeNamed with
    | ok type =>
      rw [resolved] at clean
      have normal := TypeExpr.resolve_normal (fun _ _ => regular.named) typeExpr resolved
      exact declare_follows blurs ⟨rfl, rfl, normal, normal, Ty.blurs_self normal⟩ clean.diagnostics rfl
    | error diagnostic =>
      rw [resolved] at clean
      cases (clean_declare clean).diagnostics
  | _, _, .loosen name kind typeExpr position span, scope, scope', _, blurs, clean => by
    rw [check] at clean ⊢
    rw [check, TypeExpr.resolve, regular.unknown]
    cases resolved : typeExpr.resolve context.typeNamed with
    | ok type =>
      rw [resolved] at clean
      have normal := TypeExpr.resolve_normal (fun _ _ => regular.named) typeExpr resolved
      exact declare_follows blurs ⟨rfl, rfl, normal, .unknown, .unknown type⟩ clean.diagnostics rfl
    | error diagnostic =>
      rw [resolved] at clean
      cases (clean_declare clean).diagnostics
  | _, _, .letValue name value span, scope, scope', distinct, blurs, clean => by
    rw [check, expressions, List.flatMap_singleton] at clean
    rw [check, check]
    have distinct := distinct value List.mem_cons_self
    have typed := Expr.infer_blurs regular value distinct blurs.toBlurs (clean_declare clean)
    have normal := Expr.infer_normal regular blurs.normal value
    have normal' := Expr.infer_normal regular blurs.normal' value
    exact declare_follows blurs ⟨rfl, rfl, normal, normal', typed.blurs⟩ clean.diagnostics typed.diagnostics
  | _, _, .letBlock name span inner, scope, scope', distinct, blurs, clean => by
    rw [check, expressions] at clean
    rw [expressions] at distinct
    rw [check, check]
    have inside := checkBlock_loosens regular inner distinct blurs.toBlurs.enter_here (clean_declare clean)
    exact declare_follows blurs ⟨rfl, rfl, .string, .string, Ty.blurs_self .string⟩ clean.diagnostics inside.diagnostics
  | _, _, .choose span tried last, scope, scope', distinct, blurs, clean => by
    rw [expressions_choose, List.forall_mem_append] at distinct
    rw [check_choose, expressions_choose, List.flatMap_append] at clean
    obtain ⟨first, second⟩ := clean.append
    have others := checkBranches_loosens regular tried distinct.1 blurs.toBlurs.enter_here first
    have right := checkOptional_loosens regular last distinct.2 others.scope.toBlurs second
    rw [check_choose, check_choose]
    exact ⟨Log.no_diagnostics_append others.diagnostics right, blurs⟩
  | _, _, .foreach var iterable span inner last, scope, scope', distinct, blurs, clean => by
    rw [expressions_foreach, List.forall_mem_cons, List.forall_mem_append] at distinct
    obtain ⟨distinct, distinct', distinct''⟩ := distinct
    rw [check_foreach, expressions_foreach, List.flatMap_cons, List.flatMap_append, Log.append_assoc] at clean
    obtain ⟨first, others⟩ := clean.append
    obtain ⟨second, third⟩ := others.append
    have opened := openLoop_follows regular var iterable span distinct blurs.toBlurs first
    have inside := checkBlock_loosens regular inner distinct' opened.scope second
    have right := checkOptional_loosens regular last distinct'' blurs.toBlurs third
    rw [check_foreach, check_foreach]
    exact ⟨Log.no_diagnostics_append (Log.no_diagnostics_append opened.diagnostics inside.diagnostics) right, blurs⟩

theorem checkBlock_loosens (regular : context.Regular) : ∀ {body body' : List Statement}, LoosensBody body body' →
    ∀ {scope scope' : Scope}, (∀ expr ∈ bodyExpressions body, expr.ids.Nodup) → scope.BlursHere scope' →
      (checkBlock context scope body).log.Clean typeOf ((bodyExpressions body).flatMap Expr.subterms) →
      (checkBlock context scope body).Follows (checkBlock context scope' body')
  | _, _, .nil, _, _, _, blurs, _ => ⟨rfl, blurs⟩
  | _, _, .cons first others, scope, scope', distinct, blurs, clean => by
    rw [bodyExpressions, List.forall_mem_append] at distinct
    rw [checkBlock, bodyExpressions, List.flatMap_append] at clean
    obtain ⟨clean, clean'⟩ := clean.append
    have head := check_loosens regular first distinct.1 blurs clean
    have tail := checkBlock_loosens regular others distinct.2 head.scope clean'
    rw [checkBlock, checkBlock]
    exact ⟨Log.no_diagnostics_append head.diagnostics tail.diagnostics, tail.scope⟩

theorem checkBranches_loosens (regular : context.Regular) : ∀ {branches branches' : List (Branch (List Statement))},
    LoosensBranches branches branches' → ∀ {scope scope' : Scope},
      (∀ expr ∈ branchExpressions branches, expr.ids.Nodup) → scope.BlursHere scope' →
      (checkBranches context scope branches).log.Clean typeOf ((branchExpressions branches).flatMap Expr.subterms) →
      (checkBranches context scope branches).Follows (checkBranches context scope' branches')
  | _, _, .nil, _, _, _, blurs, _ => ⟨rfl, blurs⟩
  | _, _, .cons condition span inner others, scope, scope', distinct, blurs, clean => by
    rw [branchExpressions, List.forall_mem_cons, List.forall_mem_append] at distinct
    obtain ⟨distinct, distinct', distinct''⟩ := distinct
    rw [checkBranches, branchExpressions, List.flatMap_cons, List.flatMap_append, Log.append_assoc] at clean
    obtain ⟨first, rest⟩ := clean.append
    obtain ⟨second, third⟩ := rest.append
    obtain ⟨held, failed⟩ := Expr.refine_blurs condition distinct blurs.toBlurs first
    have typed := Expr.infer_blurs regular condition distinct blurs.toBlurs first
    have inside := checkBlock_loosens regular inner distinct' (blurs.toBlurs.under_here held) second
    have after := checkBranches_loosens regular others distinct'' (blurs.assume failed) third
    rw [checkBranches, checkBranches]
    exact ⟨Log.no_diagnostics_append (Log.no_diagnostics_append typed.diagnostics inside.diagnostics) after.diagnostics,
      after.scope⟩

theorem checkOptional_loosens (regular : context.Regular) : ∀ {body body' : Option (List Statement)},
    LoosensOptional body body' → ∀ {scope scope' : Scope}, (∀ expr ∈ optionalExpressions body, expr.ids.Nodup) →
      scope.Blurs scope' → (checkOptional context scope body).Clean typeOf ((optionalExpressions body).flatMap Expr.subterms) →
      (checkOptional context scope' body').diagnostics = []
  | _, _, .none, _, _, _, _, _ => rfl
  | _, _, .some inner, _, _, distinct, blurs, clean =>
    (checkBlock_loosens regular inner distinct blurs.enter_here clean).diagnostics
end

end Statement

def Template.log (version : Version) (template : Template) : Log :=
  (Session.start.checkTemplate (.builtin version) template).log

theorem Template.log_eq (version : Version) (template : Template) :
    template.log version = (Statement.checkBlock (.builtin version) .empty template.body).log :=
  Log.empty_append _

namespace Statement

-- Gradual typing. A template that nothing is wrong with, as far as it is plain, stays right
-- whatever parameters have `?` in place of their annotations.
theorem loosened_stays_right (version : Version) {template template' : Template}
    (loosened : LoosensBody template.body template'.body) (distinct : (Expr.idsOf (bodyExpressions template.body)).Nodup)
    (right : (template.log version).diagnostics = [])
    (plain : ∀ part ∈ (bodyExpressions template.body).flatMap Expr.subterms,
      part.plain (template.log version).typeOf = true) : (template'.log version).diagnostics = [] := by
  have parts : ∀ expr ∈ bodyExpressions template.body, expr.ids.Nodup := (List.nodup_flatMap.mp distinct).1
  have numbers : (template.log version).numbers.Nodup := by
    rw [Template.log_eq, numbers_checkBlock, List.nodup_reverse]
    exact distinct
  have clean : (template.log version).Clean (template.log version).typeOf
      ((bodyExpressions template.body).flatMap Expr.subterms) :=
    ⟨right, fun entry present => Log.typeOf_of_mem numbers present, plain⟩
  have start : Scope.empty.BlursHere .empty := ⟨Scope.blurs_self .empty, fun name => Iff.rfl⟩
  rw [Template.log_eq] at clean ⊢
  exact (checkBlock_loosens (Context.builtin_regular version) loosened parts start clean).diagnostics

def simple (name : String) : TypeExpr := .named name .nowhere

def required (name : String) (typeExpr : TypeExpr) : Statement := .param name .required typeExpr .nowhere

def onlyIf (condition : Expr) (body : List Statement) : Statement := .choose [⟨condition, body, .nowhere⟩] none .nowhere

-- `{if $user != null and $user.age != null}{$user.age + $limit}{/if}`, then
-- `{foreach $item in $items}{keys($item)[0]}{/foreach}`
def profile (user items : TypeExpr) : Template :=
  ⟨"profile", [required "user" user, required "items" items, required "limit" (simple "int"),
    onlyIf (.binary (.numbered 7) .and
        (.binary (.numbered 2) .notEquals (.var (.numbered 0) "user") (.null (.numbered 1)))
        (.binary (.numbered 6) .notEquals (.field (.numbered 4) (.var (.numbered 3) "user") "age" false)
          (.null (.numbered 5))))
      [.print (.binary (.numbered 11) .plus (.field (.numbered 9) (.var (.numbered 8) "user") "age" false)
        (.var (.numbered 10) "limit")) [] .nowhere],
    .foreach "item" (.var (.numbered 12) "items")
      [.print (.index (.numbered 16) (.call (.numbered 14) "keys" [.var (.numbered 13) "item"]) (.int (.numbered 15) 0)
        false) [] .nowhere] none .nowhere], .nowhere⟩

def optionalUser : TypeExpr :=
  .union [.record [("age", .union [simple "int", simple "null"])] .nowhere, simple "null"]

def counts : TypeExpr := .generic "list" [.generic "map" [simple "string", simple "int"] .nowhere] .nowhere

theorem profile_loosens :
    LoosensBody (profile optionalUser counts).body (profile (simple "?") (simple "?")).body :=
  .cons (.loosen _ _ _ _ _) (.cons (.loosen _ _ _ _ _) (loosensBody_self _))

theorem loosened_stays_right_profile :
    (Expr.idsOf (bodyExpressions (profile optionalUser counts).body)).length = 17 ∧
      ((profile optionalUser counts).log .v2_4).diagnostics = [] ∧
      ((profile (simple "?") (simple "?")).log .v2_4).diagnostics = [] :=
  ⟨rfl, by decide +kernel,
    loosened_stays_right .v2_4 profile_loosens (by decide) (by decide +kernel) (by decide +kernel)⟩

-- `{-keys(true ? ['x': $a] : ['x': $b])[0]}`
def keysOfChoice (a b : TypeExpr) : Template :=
  ⟨"keysOfChoice", [required "a" a, required "b" b,
    .print (.unary (.numbered 11) .negate (.index (.numbered 10)
      (.call (.numbered 8) "keys" [.conditional (.numbered 7) (.bool (.numbered 0) true)
        (.map (.numbered 3) [(.string (.numbered 1) "x", .var (.numbered 2) "a")])
        (.map (.numbered 6) [(.string (.numbered 4) "x", .var (.numbered 5) "b")])])
      (.int (.numbered 9) 0) false)) [] .nowhere], .nowhere⟩

-- `{let $a: $c ? ['b': $p] : null /}{if $a.b != null}{if $a == null}{$a.b}{/if}{/if}`
def fieldOfNull (p : TypeExpr) : Template :=
  ⟨"fieldOfNull", [required "p" p, required "c" (simple "bool"),
    .letValue "a" (.conditional (.numbered 5) (.var (.numbered 0) "c")
      (.map (.numbered 3) [(.string (.numbered 1) "b", .var (.numbered 2) "p")]) (.null (.numbered 4))) .nowhere,
    onlyIf (.binary (.numbered 9) .notEquals (.field (.numbered 7) (.var (.numbered 6) "a") "b" false)
        (.null (.numbered 8)))
      [onlyIf (.binary (.numbered 12) .equals (.var (.numbered 10) "a") (.null (.numbered 11)))
        [.print (.field (.numbered 14) (.var (.numbered 13) "a") "b" false) [] .nowhere]]], .nowhere⟩

-- Neither condition of being plain can be left out. The first template calls `keys` on a
-- choice between records that become one record; in the second one a path is narrowed
-- below a variable that is then known to be `null`.
theorem loosened_not_right :
    (LoosensBody (keysOfChoice (simple "int") (simple "bool")).body (keysOfChoice (simple "?") (simple "?")).body ∧
        (Expr.idsOf (bodyExpressions (keysOfChoice (simple "int") (simple "bool")).body)).Nodup ∧
        ((keysOfChoice (simple "int") (simple "bool")).log .v2_4).diagnostics = [] ∧
        ((keysOfChoice (simple "?") (simple "?")).log .v2_4).diagnostics ≠ []) ∧
      LoosensBody (fieldOfNull (.union [simple "int", simple "null"])).body (fieldOfNull (simple "?")).body ∧
        (Expr.idsOf (bodyExpressions (fieldOfNull (.union [simple "int", simple "null"])).body)).Nodup ∧
        ((fieldOfNull (.union [simple "int", simple "null"])).log .v2_4).diagnostics = [] ∧
        ((fieldOfNull (simple "?")).log .v2_4).diagnostics ≠ [] := by
  refine ⟨⟨?_, by decide, by decide +kernel, by decide +kernel⟩, ?_, by decide, by decide +kernel, by decide +kernel⟩
  · exact .cons (.loosen _ _ _ _ _) (.cons (.loosen _ _ _ _ _) (loosensBody_self _))
  · exact .cons (.loosen _ _ _ _ _) (loosensBody_self _)

end Statement
end TypedTemplate
