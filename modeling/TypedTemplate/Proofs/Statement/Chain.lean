import TypedTemplate.Proofs.Statement.Agreement

namespace TypedTemplate.Statement

def nested (otherwise : Option (List Statement)) (span : Span) : List (Branch (List Statement)) → Statement
  | [] => choose [] otherwise span
  | [last] => choose [last] otherwise span
  | first :: rest => choose [first] (some [nested otherwise span rest]) span

theorem checkBlock_single (context : Context) (scope : Scope) (statement : Statement) :
    (checkBlock context scope [statement]).log = (check context scope statement).log := by
  simp only [checkBlock, Log.append_empty]

theorem checkBranches_cons (context : Context) (scope : Scope) (first : Branch (List Statement))
    (rest : List (Branch (List Statement))) :
    (checkBranches context scope (first :: rest)).log = (checkBranches context scope [first]).log ++
        (checkBranches context (checkBranches context scope [first]).scope rest).log ∧
      (checkBranches context scope (first :: rest)).scope =
        (checkBranches context (checkBranches context scope [first]).scope rest).scope := by
  simp only [checkBranches, Log.append_empty, and_self]

-- The chain overwrites in one block what the nesting stacks up in several, but both
-- give the same answers wherever a condition or a body is checked.
theorem check_choose_cons (context : Context) (scope : Scope) (first : Branch (List Statement))
    (rest : List (Branch (List Statement))) (otherwise : Option (List Statement)) (span outer inner : Span) :
    check context scope (choose (first :: rest) otherwise span) =
      check context scope (choose [first] (some [choose rest otherwise inner]) outer) := by
  obtain ⟨log, after⟩ := checkBranches_cons context scope.enter first rest
  let failed := (checkBranches context scope.enter [first]).scope
  have agree : failed.Agrees failed.enter.enter := (Scope.Agrees.refl failed).enter_right.enter_right
  obtain ⟨others, last⟩ := checkBranches_congr context rest agree
  have body := checkOptional_congr context otherwise last
  rw [check_choose, check_choose, log, after, checkOptional, checkBlock_single, check_choose, others, body, Log.append_assoc]

theorem check_choose_congr (context : Context) (scope : Scope) (branches : List (Branch (List Statement)))
    {first second : Statement} (same : ∀ scope, check context scope first = check context scope second) (span : Span) :
    check context scope (choose branches (some [first]) span) = check context scope (choose branches (some [second]) span) := by
  rw [check_choose, check_choose, checkOptional, checkOptional, checkBlock_single, checkBlock_single, same]

theorem check_nested (context : Context) (scope : Scope) (branches : List (Branch (List Statement)))
    (otherwise : Option (List Statement)) (span : Span) :
    check context scope (nested otherwise span branches) = check context scope (choose branches otherwise span) := by
  induction branches generalizing scope with
  | nil => rfl
  | cons first rest ih =>
    cases rest with
    | nil => rfl
    | cons second others =>
      calc check context scope (nested otherwise span (first :: second :: others))
        _ = check context scope (choose [first] (some [choose (second :: others) otherwise span]) span) :=
          check_choose_congr context scope [first] ih span
        _ = check context scope (choose (first :: second :: others) otherwise span) :=
          (check_choose_cons context scope first (second :: others) otherwise span span span).symm

-- Whatever the language version and the scope, a chain is checked as the statement
-- with its first condition alone and the rest of the chain in place of `else`, and as
-- the nesting in which every condition has a statement to itself: the same types are
-- found for the same expressions and the same diagnostics reported in the same order.
theorem chain_checks_as_nesting (context : Context) (scope : Scope) (first second : Branch (List Statement))
    (rest : List (Branch (List Statement))) (otherwise : Option (List Statement)) (span outer inner : Span) :
    check context scope (choose (first :: second :: rest) otherwise span) =
        check context scope (choose [first] (some [choose (second :: rest) otherwise inner]) outer) ∧
      check context scope (choose (first :: second :: rest) otherwise span) =
        check context scope (nested otherwise outer (first :: second :: rest)) := by
  refine ⟨check_choose_cons context scope first (second :: rest) otherwise span outer inner, ?_⟩
  rw [check_nested, check_choose, check_choose]

end TypedTemplate.Statement
