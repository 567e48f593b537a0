import TypedTemplate.Proofs.SourceFile.Accounts

namespace TypedTemplate

namespace Expr

def InPostOrder (terms : List Expr) : Prop := ∀ expr ∈ terms, expr.subterms <:+: terms

namespace InPostOrder

variable {terms terms' : List Expr}

theorem nil : InPostOrder [] := fun _ listed => absurd listed List.not_mem_nil

theorem append (first : InPostOrder terms) (second : InPostOrder terms') : InPostOrder (terms ++ terms') := by
  intro expr listed
  rcases List.mem_append.mp listed with inside | inside
  · exact (first expr inside).trans (List.prefix_append terms terms').isInfix
  · exact (second expr inside).trans (List.suffix_append terms terms').isInfix

theorem flatMap {α : Type} {items : List α} {walk : α → List Expr} (each : ∀ item ∈ items, InPostOrder (walk item)) :
    InPostOrder (items.flatMap walk) := by
  induction items with
  | nil => exact nil
  | cons item rest ih =>
    rw [List.flatMap_cons]
    exact (each item List.mem_cons_self).append (ih fun item later => each item (List.mem_cons_of_mem _ later))

theorem whole (parts : InPostOrder terms) {expr : Expr} (spelled : expr.subterms = terms ++ [expr]) :
    InPostOrder expr.subterms := by
  intro other listed
  rw [spelled] at listed
  rcases List.mem_append.mp listed with inside | itself
  · rw [spelled]
    exact (parts other inside).trans (List.prefix_append terms [expr]).isInfix
  · obtain rfl := List.mem_singleton.mp itself
    exact List.infix_refl _

end InPostOrder

mutual
theorem subterms_inPostOrder : ∀ expr : Expr, InPostOrder expr.subterms
  | null _ | bool _ _ | int _ _ | float _ _ | string _ _ | var _ _ => InPostOrder.nil.whole rfl
  | list _ items => (subtermsOf_inPostOrder items).whole rfl
  | map _ entries => (subtermsOfEntries_inPostOrder entries).whole rfl
  | field _ base _ _ => base.subterms_inPostOrder.whole rfl
  | index _ base key _ => (base.subterms_inPostOrder.append key.subterms_inPostOrder).whole rfl
  | unary _ _ operand => operand.subterms_inPostOrder.whole rfl
  | binary _ _ left right => (left.subterms_inPostOrder.append right.subterms_inPostOrder).whole rfl
  | conditional _ condition thenValue elseValue =>
    ((condition.subterms_inPostOrder.append thenValue.subterms_inPostOrder).append elseValue.subterms_inPostOrder).whole rfl
  | call _ _ args => (subtermsOf_inPostOrder args).whole rfl

theorem subtermsOf_inPostOrder : ∀ exprs : List Expr, InPostOrder (subtermsOf exprs)
  | [] => .nil
  | expr :: rest => expr.subterms_inPostOrder.append (subtermsOf_inPostOrder rest)

theorem subtermsOfEntries_inPostOrder : ∀ entries : List (Expr × Expr), InPostOrder (subtermsOfEntries entries)
  | [] => .nil
  | (key, value) :: rest =>
    (key.subterms_inPostOrder.append value.subterms_inPostOrder).append (subtermsOfEntries_inPostOrder rest)
end

theorem subterms_eq_concat (expr : Expr) : ∃ inside, expr.subterms = inside ++ [expr] := by
  cases expr with
  | null | bool | int | float | string | var => exact ⟨[], rfl⟩
  | list | map | field | index | unary | binary | conditional | call => exact ⟨_, rfl⟩

end Expr

namespace SourceFile

open TypedTemplate.Expr (InPostOrder)

theorem expressions_inPostOrder (file : SourceFile) : InPostOrder file.expressions := by
  rw [expressions_eq]
  exact .flatMap fun root _ => root.subterms_inPostOrder

-- The numbers in a file that was read follow its tree: listed with the parts of each
-- expression before itself, statement by statement, they go up. So no two expressions have
-- one number, and each has a greater one than all that is inside it.
theorem parse_numbers {tokens : List Token} {name : String} {version : Version} {file : SourceFile}
    (parsed : parse tokens name version = .ok file) :
    (file.expressions.map Expr.id).Pairwise (· < ·) ∧ (file.expressions.map Expr.id).Nodup ∧
      ∀ expr ∈ file.expressions, ∃ inside, expr.subterms = inside ++ [expr] ∧ inside ++ [expr] <:+: file.expressions ∧
        ∀ part ∈ inside, part.id < expr.id := by
  have increasing := parse_increasing parsed
  have distinct := parse_distinct parsed
  rw [idsOf_roots] at increasing distinct
  refine ⟨increasing, distinct, fun expr listed => ?_⟩
  obtain ⟨inside, spelled⟩ := expr.subterms_eq_concat
  have stands := file.expressions_inPostOrder expr listed
  rw [spelled] at stands
  refine ⟨inside, spelled, stands, fun part among => ?_⟩
  have ordered := increasing.sublist (stands.sublist.map Expr.id)
  rw [List.map_append, List.pairwise_append] at ordered
  exact ordered.2.2 part.id (List.mem_map_of_mem among) expr.id List.mem_cons_self

-- `{template .t}{-$a|truncate: 8, true}{if $b.c}{['k': $d]}`, then
-- `{else}{foreach $i in [1]}{f($i)}{/foreach}{/if}{/template}`
def numberedSource : String :=
  "\x7btemplate .t\x7d\x7b-$a|truncate: 8, true\x7d\x7bif $b.c\x7d\x7b['k': $d]\x7d" ++
    "\x7belse\x7d\x7bforeach $i in [1]\x7d\x7bf($i)\x7d\x7b/foreach\x7d\x7b/if\x7d\x7b/template\x7d"

def numberedTokens : List Token := (Token.tokenize numberedSource Token.defaultFile).toOption.getD []

def numberedFile : SourceFile := (parse numberedTokens Token.defaultFile .v2_4).toOption.getD ⟨none, [], .v2_4⟩

-- The arguments of the directive, which are not kept, had the numbers 2 and 3.
theorem parse_numbers_numberedFile :
    parse numberedTokens Token.defaultFile .v2_4 = .ok numberedFile ∧
      numberedFile.expressions.map Expr.id = [0, 1, 4, 5, 6, 7, 8, 9, 10, 11, 12] ∧
      [0, 1, 4, 5, 6, 7, 8, 9, 10, 11, 12].Nodup ∧
      ∀ expr ∈ numberedFile.expressions, ∃ inside, expr.subterms = inside ++ [expr] ∧
        inside ++ [expr] <:+: numberedFile.expressions ∧ ∀ part ∈ inside, part.id < expr.id := by
  have parsed : parse numberedTokens Token.defaultFile .v2_4 = .ok numberedFile := parse_found (by decide +kernel)
  have numbers : numberedFile.expressions.map Expr.id = [0, 1, 4, 5, 6, 7, 8, 9, 10, 11, 12] := by decide +kernel
  obtain ⟨_, distinct, inside⟩ := parse_numbers parsed
  exact ⟨parsed, numbers, numbers ▸ distinct, inside⟩

end SourceFile
end TypedTemplate
