import TypedTemplate.Proofs.Expr.Visited
import TypedTemplate.Proofs.Statement.Numbers

namespace TypedTemplate

structure Scope.Fixes (scope : Scope) (name : String) (type : Ty) : Prop where
  declares : scope.declares name
  typeOf : scope.typeOf (.bare name) = some type

namespace Scope.Fixes

variable {scope : Scope} {name : String} {type : Ty}

theorem enter (fixed : scope.Fixes name type) : scope.enter.Fixes name type := ⟨fixed.declares, fixed.typeOf⟩

theorem assume (fixed : scope.Fixes name type) {constraints : Constraints} {found : Ty}
    (sorted : Sorted.IncreasingKeys constraints) (told : (constraints.lookup (.bare name)).getD type = found) :
    (scope.assume constraints).Fixes name found := by
  refine ⟨?_, ?_⟩
  · simp only [Scope.declares, lookup_assume]
    exact fixed.declares
  · rw [typeOf_assume sorted, fixed.typeOf, ← told]
    cases constraints.lookup (.bare name) <;> rfl

theorem assume_within (fixed : scope.Fixes name type) {constraints : Constraints}
    (sorted : Sorted.IncreasingKeys constraints)
    (within : constraints.Within fun key found => key = .bare name → found = type) :
    (scope.assume constraints).Fixes name type := by
  refine fixed.assume sorted ?_
  cases told : constraints.lookup (.bare name) with
  | some found => exact within _ found told rfl
  | none => rfl

theorem assume_single (fixed : scope.Fixes name type) (found : Ty) :
    (scope.assume [(.bare name, found)]).Fixes name found :=
  fixed.assume (List.pairwise_singleton _ _) (by rw [List.lookup_cons_self]; rfl)

theorem declare (fixed : scope.Fixes name type) {symbol : Symbol} {declared : Scope}
    (opened : scope.declare symbol = .ok declared) (other : symbol.name ≠ name) : declared.Fixes name type := by
  refine ⟨?_, ?_⟩
  · simp only [Scope.declares, lookup_declare opened, if_neg other.symm]
    exact fixed.declares
  · rw [typeOf_declare opened, if_neg (show (RefKey.bare name).root ≠ symbol.name from other.symm)]
    exact fixed.typeOf

end Scope.Fixes

theorem Invariant.fixes (context : Context) (name : String) {type : Ty} (steady : type.Steady) :
    Invariant context (fun key found => key = .bare name → found = type) (·.Fixes name type) where
  closed _ := (Ty.Closed.steady steady).of_imp _
  under fixed sorted within := fixed.enter.assume_within sorted within
  read fixed denotes nullable :=
    (Invariant.holds (.steady steady) context).read ⟨type, fixed.typeOf, rfl⟩ denotes nullable

namespace Expr

def isVar (name : String) : Expr → Bool
  | var _ other => other == name
  | _ => false

def uses (name : String) (expr : Expr) : List Nat := (expr.subterms.filter (isVar name)).map id

theorem infer_var (context : Context) {scope : Scope} {name : String} {type : Ty} (fixed : scope.Fixes name type)
    (other : name ≠ injectedData) (node : Node) : ((var node name).infer context scope).type = type := by
  obtain ⟨symbol, found⟩ := fixed.declares
  rw [infer, varType, if_neg other, found, fixed.typeOf]
  rfl

theorem infer_uses (context : Context) {name : String} {type : Ty} (steady : type.Steady)
    (other : name ≠ injectedData) (expr : Expr) {scope : Scope} (distinct : expr.ids.Nodup) (fixed : scope.Fixes name type) :
    ∀ id ∈ expr.uses name, (id, type) ∈ (expr.infer context scope).log.types := by
  intro id used
  obtain ⟨part, inside, rfl⟩ := List.mem_map.mp used
  obtain ⟨inside, reference⟩ := List.mem_filter.mp inside
  obtain ⟨scope', fixed', recorded⟩ := infer_visits (.fixes context name steady) expr distinct fixed part inside
  cases part with
  | var node name' =>
    have same : name' = name := by simpa [isVar] using reference
    subst same
    rw [infer_var context fixed' other] at recorded
    exact recorded
  | _ => cases reference

end Expr

namespace Statement

def declared? : Statement → Option String
  | param name .. | letValue name .. | letBlock name .. => some name
  | _ => none

-- The numbers of the references to a variable in a statement that are not under a
-- declaration of that variable inside it.
mutual
def uses (name : String) : Statement → List Nat
  | text .. | param .. => []
  | print expr _ _ => expr.uses name
  | letValue _ value _ => value.uses name
  | letBlock _ body _ => bodyUses name body
  | choose branches none _ => branchUses name branches
  | choose branches (some body) _ => branchUses name branches ++ bodyUses name body
  | foreach var iterable body none _ => iterable.uses name ++ if var = name then [] else bodyUses name body
  | foreach var iterable body (some ifEmpty) _ =>
    iterable.uses name ++ (if var = name then [] else bodyUses name body) ++ bodyUses name ifEmpty

def bodyUses (name : String) : List Statement → List Nat
  | [] => []
  | statement :: rest => statement.uses name ++ if statement.declared? = some name then [] else bodyUses name rest

def branchUses (name : String) : List (Branch (List Statement)) → List Nat
  | [] => []
  | ⟨condition, body, _⟩ :: rest => condition.uses name ++ bodyUses name body ++ branchUses name rest
end

def optionalUses (name : String) : Option (List Statement) → List Nat
  | none => []
  | some body => bodyUses name body

theorem uses_choose (name : String) (branches : List (Branch (List Statement))) (otherwise : Option (List Statement))
    (span : Span) : (choose branches otherwise span).uses name = branchUses name branches ++ optionalUses name otherwise := by
  cases otherwise <;> simp [uses, optionalUses]

theorem uses_foreach (name var : String) (iterable : Expr) (body : List Statement) (ifEmpty : Option (List Statement))
    (span : Span) : (foreach var iterable body ifEmpty span).uses name =
      iterable.uses name ++ (if var = name then [] else bodyUses name body) ++ optionalUses name ifEmpty := by
  cases ifEmpty <;> simp [uses, optionalUses]

theorem declare_types (scope : Scope) (symbol : Symbol) (position : Position) (log : Log) :
    (declare scope symbol position log).log.types = log.types := by
  unfold declare
  split
  · rfl
  · rw [Log.types_append]; rfl

theorem declare_fixes {scope : Scope} {name : String} {type : Ty} (fixed : scope.Fixes name type) {symbol : Symbol}
    (position : Position) (log : Log) (other : symbol.name ≠ name) :
    (declare scope symbol position log).scope.Fixes name type := by
  unfold declare
  split
  · rename_i opened; exact fixed.declare opened other
  · exact fixed

-- Where the type of a variable is fixed it stays so until the variable is declared
-- again, and all its uses up to there are recorded with it.
mutual
theorem check_uses (context : Context) {name : String} {type : Ty} (steady : type.Steady)
    (other : name ≠ Expr.injectedData) : ∀ (statement : Statement) {scope : Scope},
    (∀ expr ∈ statement.expressions, expr.ids.Nodup) → scope.Fixes name type →
    (∀ id ∈ statement.uses name, (id, type) ∈ (statement.check context scope).log.types) ∧
      (statement.declared? ≠ some name → (statement.check context scope).scope.Fixes name type)
  | text .., _, _, fixed => ⟨nofun, fun _ => fixed⟩
  | print expr .., _, distinct, fixed =>
    ⟨Expr.infer_uses context steady other expr (distinct expr (by simp [expressions])) fixed, fun _ => fixed⟩
  | param name' kind typeExpr span, _, _, fixed => by
    refine ⟨nofun, fun free => ?_⟩
    have differ : name' ≠ name := fun same => free (congrArg some same)
    rw [check]
    split
    · exact declare_fixes fixed _ _ differ
    · exact declare_fixes fixed _ _ differ
  | letValue name' value span, _, distinct, fixed => by
    rw [check, declare_types]
    refine ⟨Expr.infer_uses context steady other value (distinct value (by simp [expressions])) fixed, fun free => ?_⟩
    exact declare_fixes fixed _ _ fun same => free (congrArg some same)
  | letBlock name' body span, _, distinct, fixed => by
    rw [check, declare_types]
    refine ⟨checkBlock_uses context steady other body distinct fixed.enter, fun free => ?_⟩
    exact declare_fixes fixed _ _ fun same => free (congrArg some same)
  | choose branches otherwise span, _, distinct, fixed => by
    rw [expressions_choose] at distinct
    obtain ⟨tried, failed⟩ := checkBranches_uses context steady other branches
      (fun expr present => distinct expr (List.mem_append_left _ present)) fixed.enter
    have last := checkOptional_uses context steady other otherwise (fun expr present => distinct expr (List.mem_append_right _ present)) failed
    rw [check_choose, uses_choose]
    refine ⟨fun id used => Log.mem_types_append.mpr ?_, fun _ => fixed⟩
    exact (List.mem_append.mp used).imp (tried id) (last id)
  | foreach var iterable body ifEmpty span, scope, distinct, fixed => by
    rw [expressions_foreach] at distinct
    have first := Expr.infer_uses context steady other iterable (distinct iterable (by simp)) fixed
    have last := checkOptional_uses context steady other ifEmpty (fun expr present => distinct expr (by simp [present])) fixed
    rw [check_foreach, uses_foreach]
    refine ⟨fun id used => ?_, fun _ => fixed⟩
    rw [Log.mem_types_append, Log.mem_types_append]
    rcases List.mem_append.mp used with inner | used
    · rcases List.mem_append.mp inner with used | used
      · exact .inl (.inl (Log.mem_types_append.mpr (.inl (first id used))))
      · split at used
        · cases used
        · rename_i differ
          have opened : (openLoop context scope var iterable span).scope.Fixes name type :=
            declare_fixes fixed.enter span.start _ differ
          exact .inl (.inr (checkBlock_uses context steady other body (fun expr present => distinct expr (by simp [present])) opened id used))
    · exact .inr (last id used)

theorem checkBlock_uses (context : Context) {name : String} {type : Ty} (steady : type.Steady)
    (other : name ≠ Expr.injectedData) : ∀ (body : List Statement) {scope : Scope},
    (∀ expr ∈ bodyExpressions body, expr.ids.Nodup) → scope.Fixes name type →
    ∀ id ∈ bodyUses name body, (id, type) ∈ (checkBlock context scope body).log.types
  | [], _, _, _ => nofun
  | statement :: rest, _, distinct, fixed => by
    rw [bodyExpressions] at distinct
    obtain ⟨first, after⟩ := check_uses context steady other statement (fun expr present => distinct expr (List.mem_append_left _ present)) fixed
    intro id used
    rw [checkBlock, Log.mem_types_append]
    rcases List.mem_append.mp used with used | used
    · exact .inl (first id used)
    · split at used
      · cases used
      · rename_i free
        exact .inr (checkBlock_uses context steady other rest (fun expr present => distinct expr (List.mem_append_right _ present))
          (after free) id used)

theorem checkBranches_uses (context : Context) {name : String} {type : Ty} (steady : type.Steady)
    (other : name ≠ Expr.injectedData) : ∀ (branches : List (Branch (List Statement))) {scope : Scope},
    (∀ expr ∈ branchExpressions branches, expr.ids.Nodup) → scope.Fixes name type →
    (∀ id ∈ branchUses name branches, (id, type) ∈ (checkBranches context scope branches).log.types) ∧
      (checkBranches context scope branches).scope.Fixes name type
  | [], _, _, fixed => ⟨nofun, fixed⟩
  | ⟨condition, body, _⟩ :: rest, scope, distinct, fixed => by
    rw [branchExpressions] at distinct
    have distinct' : condition.ids.Nodup := distinct condition (by simp)
    have invariant := Invariant.fixes context name steady
    have told := invariant.refine_within distinct' fixed
    have sorted := Expr.refine_sorted (condition.infer context scope).log.typeOf context.version.isModern condition
    have first := Expr.infer_uses context steady other condition distinct' fixed
    have inner := checkBlock_uses context steady other body (fun expr present => distinct expr (by simp [present]))
      (invariant.under_whenTrue distinct' fixed)
    obtain ⟨others, last⟩ := checkBranches_uses context steady other rest (fun expr present => distinct expr (by simp [present]))
      (fixed.assume_within sorted.whenFalse told.whenFalse)
    refine ⟨fun id used => ?_, last⟩
    rw [checkBranches, Log.mem_types_append, Log.mem_types_append]
    rcases List.mem_append.mp used with used | used
    · exact .inl ((List.mem_append.mp used).imp (first id) (inner id))
    · exact .inr (others id used)

theorem checkOptional_uses (context : Context) {name : String} {type : Ty} (steady : type.Steady)
    (other : name ≠ Expr.injectedData) : ∀ (body : Option (List Statement)) {scope : Scope},
    (∀ expr ∈ optionalExpressions body, expr.ids.Nodup) → scope.Fixes name type →
    ∀ id ∈ optionalUses name body, (id, type) ∈ (checkOptional context scope body).types
  | none, _, _, _ => nofun
  | some body, _, distinct, fixed => checkBlock_uses context steady other body distinct fixed.enter
end

end Statement

inductive Expr.Tests (modern : Bool) (name : String) : Bool → Expr → Prop where
  | isNonnull (node reference : Node) : Tests modern name true (call node "isNonnull" [var reference name])
  | bare (reference : Node) : modern = true → Tests modern name true (var reference name)
  | notEquals (node reference literal : Node) :
      Tests modern name true (binary node .notEquals (var reference name) (null literal))
  | notEqualsFlipped (node reference literal : Node) :
      Tests modern name true (binary node .notEquals (null literal) (var reference name))
  | equals (node reference literal : Node) :
      Tests modern name false (binary node .equals (var reference name) (null literal))
  | equalsFlipped (node reference literal : Node) :
      Tests modern name false (binary node .equals (null literal) (var reference name))
  | not (node : Node) {nonNull : Bool} {operand : Expr} :
      Tests modern name nonNull operand → Tests modern name (!nonNull) (unary node .not operand)

theorem Expr.Tests.evidence {context : Context} {scope : Scope} {name : String} {nonNull : Bool} {condition : Expr}
    {type : Ty} (tests : condition.Tests context.version.isModern name nonNull) (fixed : scope.Fixes name type)
    (other : name ≠ injectedData) : (condition.formula context.version.isModern).evidence context scope =
      if nonNull then Formula.learn (.bare name) type else (Formula.learn (.bare name) type).swap := by
  induction tests with
  | bare reference modern =>
    rw [formula, if_pos modern, ← infer_var context fixed other reference]
    rfl
  | not node tests ih =>
    rename_i nonNull operand
    rw [formula, Formula.evidence, ih]
    cases nonNull <;> rfl
  | _ node reference =>
    rw [formula, ← infer_var context fixed other reference]
    rfl

theorem Formula.learn_nullable {key : RefKey} {type : Ty} (normal : type.Normal) (known : type ≠ .unknown)
    (present : type.isNullable = false) : learn key type.nullable = ⟨[(key, type)], [(key, .null)]⟩ := by
  rw [learn, if_pos (Ty.isNullable_nullable normal known), Ty.removeNull_of_nullable normal known present]

theorem Expr.Tests.refine {context : Context} {scope : Scope} {name : String} {nonNull : Bool} {condition : Expr}
    {type : Ty} (tests : condition.Tests context.version.isModern name nonNull) (distinct : condition.ids.Nodup)
    (fixed : scope.Fixes name type.nullable) (other : name ≠ injectedData) (normal : type.Normal)
    (known : type ≠ .unknown) (present : type.isNullable = false) :
    condition.refine (condition.infer context scope).log.typeOf context.version.isModern =
      ⟨[(.bare name, if nonNull then type else .null)], [(.bare name, if nonNull then .null else type)]⟩ := by
  rw [refine_infer context condition scope distinct, tests.evidence fixed other,
    Formula.learn_nullable normal known present]
  cases nonNull <;> rfl

theorem Ty.Steady.ite {a b : Ty} (first : a.Steady) (second : b.Steady) (which : Bool) :
    (if which then a else b).Steady := by
  cases which with
  | true => exact first
  | false => exact second

namespace Statement

theorem typeOf_check {context : Context} {scope : Scope} {statement : Statement} {id : Nat} {type : Ty} (earlier : Log)
    (distinct : (Expr.idsOf statement.expressions).Nodup) (recorded : (id, type) ∈ (statement.check context scope).log.types) :
    (earlier ++ (statement.check context scope).log).typeOf id = some type := by
  rw [Log.typeOf_append, Log.typeOf_of_mem (numbers_check_nodup distinct) recorded]
  rfl

-- Suppose that a variable is a value of some type or `null`, and that the first
-- condition of a chain tests which. Then every use of the variable in the first body is
-- recorded with the one and every use in what is left of the chain with the other,
-- whatever stands there, as far as the variable is not declared anew. As for the
-- hypothesis `known`: `?|null` is `?`, in which there is nothing to tell apart.
theorem choose_narrows (context : Context) (scope : Scope) (earlier : Log) {name : String} {type : Ty}
    (normal : type.Normal) (known : type ≠ .unknown) (present : type.isNullable = false) (other : name ≠ Expr.injectedData)
    (declared : scope.declares name) (typed : scope.typeOf (.bare name) = some type.nullable)
    (first : Branch (List Statement)) (rest : List (Branch (List Statement))) (otherwise : Option (List Statement))
    (span : Span) (distinct : (Expr.idsOf (choose (first :: rest) otherwise span).expressions).Nodup) (nonNull : Bool)
    (tests : first.condition.Tests context.version.isModern name nonNull) :
    (∀ id ∈ bodyUses name first.body,
        (earlier ++ (check context scope (choose (first :: rest) otherwise span)).log).typeOf id =
          some (if nonNull then type else .null)) ∧
      ∀ id ∈ branchUses name rest ++ optionalUses name otherwise,
        (earlier ++ (check context scope (choose (first :: rest) otherwise span)).log).typeOf id =
          some (if nonNull then .null else type) := by
  obtain ⟨condition, body, place⟩ := first
  have parts : ∀ expr ∈ (choose (⟨condition, body, place⟩ :: rest) otherwise span).expressions, expr.ids.Nodup :=
    fun expr listed => (List.nodup_flatMap.mp distinct).1 expr listed
  rw [expressions_choose, branchExpressions] at parts
  have fixed : scope.enter.Fixes name type.nullable := ⟨declared, typed⟩
  have told := tests.refine (parts condition (by simp)) fixed other normal known present
  have steady : type.Steady := ⟨normal, .inl present⟩
  have steady' : Ty.null.Steady := ⟨.null, .inr rfl⟩
  have held := checkBlock_uses context (steady.ite steady' nonNull) other body
    (fun expr listed => parts expr (by simp [listed])) (fixed.enter.assume_single _)
  obtain ⟨failed, after⟩ := checkBranches_uses context (steady'.ite steady nonNull) other rest
    (fun expr listed => parts expr (by simp [listed])) (fixed.assume_single _)
  have last := checkOptional_uses context (steady'.ite steady nonNull) other otherwise
    (fun expr listed => parts expr (by simp [listed])) after
  refine ⟨fun id used => typeOf_check earlier distinct ?_, fun id used => typeOf_check earlier distinct ?_⟩
  · rw [check_choose, checkBranches, told]
    simp only [Log.mem_types_append]
    exact .inl (.inl (.inr (held id used)))
  · rw [check_choose, checkBranches, told]
    simp only [Log.mem_types_append]
    exact (List.mem_append.mp used).imp (fun used => .inr (failed id used)) (last id)

def optionalScope : Scope := ⟨⟨[⟨"x", .requiredParam, .nullable .int⟩], []⟩, []⟩

-- `{if not ($x == null)}{foreach $y in [$x]}{$x}{/foreach}{let $x: $x /}{$x}`, then
-- `{elseif $x != null}{$x}{else}{if $x == null}{$x}{/if}{/if}`
def firstBody : Branch (List Statement) :=
  ⟨.unary (.numbered 3) .not (.binary (.numbered 2) .equals (.var (.numbered 0) "x") (.null (.numbered 1))),
    [.foreach "y" (.list (.numbered 5) [.var (.numbered 4) "x"]) [.print (.var (.numbered 6) "x") [] .nowhere] none .nowhere,
      .letValue "x" (.var (.numbered 7) "x") .nowhere, .print (.var (.numbered 8) "x") [] .nowhere], .nowhere⟩

def laterBranches : List (Branch (List Statement)) :=
  [⟨.binary (.numbered 11) .notEquals (.var (.numbered 9) "x") (.null (.numbered 10)),
    [.print (.var (.numbered 12) "x") [] .nowhere], .nowhere⟩]

def lastBody : List Statement :=
  [.choose [⟨.binary (.numbered 15) .equals (.var (.numbered 13) "x") (.null (.numbered 14)),
    [.print (.var (.numbered 16) "x") [] .nowhere], .nowhere⟩] none .nowhere]

theorem firstBody_tests : firstBody.condition.Tests true "x" true :=
  .not (.numbered 3) (.equals (.numbered 2) (.numbered 0) (.numbered 1))

theorem choose_narrows_optionalScope :
    bodyUses "x" firstBody.body = [4, 6, 7] ∧
      (branchUses "x" laterBranches ++ optionalUses "x" (some lastBody)) = [9, 12, 13, 16] ∧
      (∀ id ∈ [4, 6, 7], (check (.builtin .v2_4) optionalScope
        (choose (firstBody :: laterBranches) (some lastBody) .nowhere)).log.typeOf id = some .int) ∧
      ∀ id ∈ [9, 12, 13, 16], (check (.builtin .v2_4) optionalScope
        (choose (firstBody :: laterBranches) (some lastBody) .nowhere)).log.typeOf id = some .null := by
  have narrowed := choose_narrows (.builtin .v2_4) optionalScope .empty .int (by decide) rfl (by decide) ⟨_, rfl⟩ rfl
    firstBody laterBranches (some lastBody) .nowhere (by decide) true firstBody_tests
  rw [Log.empty_append] at narrowed
  exact ⟨rfl, rfl, narrowed.1, narrowed.2⟩

end Statement
end TypedTemplate
