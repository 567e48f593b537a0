import TypedTemplate.Proofs.Expr.ReadBack

namespace TypedTemplate.Expr

open Parsed Cursor BindingPower

def isOperand : Expr → Bool
  | field .. | index .. | binary .. | conditional .. => false
  | _ => true

-- How tightly the tokens after an expression may bind without becoming part of it. The
-- last part of a choice reaches as far as it can.
def reach (expr : Expr) : Nat := if expr.power = .conditional then 0 else expr.power.level

theorem operator_level (operator : BinaryOperator) :
    0 < operator.power.level ∧ operator.power.level < BindingPower.unary.level ∧
      (operator.power = .conditional ↔ operator = .orElse) := by
  cases operator <;> decide

theorem power_pos (expr : Expr) : 0 < expr.power.level := by
  cases expr with
  | binary node operator left right => exact (operator_level operator).1
  | _ => exact Nat.succ_pos _

theorem choice_level (expr : Expr) (other : expr.power ≠ .conditional) : BindingPower.conditional.level < expr.power.level := by
  have positive := expr.power_pos
  generalize expr.power = power at other positive
  cases power with
  | lowest => cases positive
  | conditional => exact absurd rfl other
  | _ => decide

theorem reach_of_tight {expr : Expr} (tight : BindingPower.conditional.level < expr.power.level) :
    expr.reach = expr.power.level := by
  rw [reach, if_neg]
  intro same
  rw [same] at tight
  exact Nat.lt_irrefl _ tight

theorem operand_of_level {expr : Expr} (tight : BindingPower.unary.level ≤ expr.power.level) :
    expr.isOperand ∨ BindingPower.unary.level < expr.power.level := by
  cases expr with
  | binary node operator left right => exact absurd (operator_level operator).2.1 (Nat.not_lt.mpr tight)
  | conditional => exact absurd tight (by simp [power, BindingPower.level])
  | field | index => exact .inr (Nat.lt_succ_self _)
  | _ => exact .inl rfl

theorem operand_of_primary {expr : Expr} (atom : expr.power = .primary) : expr.isOperand := by
  cases expr with
  | binary node operator left right =>
    have loose := (operator_level operator).2.1
    rw [show operator.power = .primary from atom] at loose
    exact absurd loose (by decide)
  | field | index | conditional => cases atom
  | _ => rfl

-- An expression that reads back from its bare words: at any power if it is an operand,
-- else at the powers it binds above.
def ReadsBack (spell : Node → String) (expr : Expr) : Prop :=
  ∀ power : BindingPower, expr.isOperand ∨ power.level < expr.power.level →
    Starts power (bare spell expr) expr.reach expr

namespace ReadsBack

variable {spell : Node → String} {power : BindingPower} {expr : Expr}

theorem of_operand (operand : Operand (bare spell expr) expr.reach expr) : ReadsBack spell expr :=
  fun _ _ => operand.starts

theorem lowest (back : ReadsBack spell expr) : Reads .lowest (bare spell expr) expr :=
  (back .lowest (.inr expr.power_pos)).reads (Nat.zero_le _)

theorem grouped (back : ReadsBack spell expr) {needed : Bool} {limit : Nat}
    (alone : needed = false → (expr.isOperand ∨ power.level < expr.power.level) ∧ limit ≤ expr.reach) :
    Starts power (Expr.grouped needed (bare spell expr)) limit expr := by
  cases needed with
  | true => exact (grouped_operand back.lowest limit).starts
  | false => exact Starts.weaken (back power (alone rfl).1) (alone rfl).2

theorem write (back : ReadsBack spell expr) (power : BindingPower) : Reads power (Expr.write spell power expr) expr := by
  refine (back.grouped fun bare => ?_).reads (Nat.le_refl power.level)
  have tight : power.level < expr.power.level := Nat.not_le.mp (of_decide_eq_false bare)
  refine ⟨.inr tight, ?_⟩
  unfold reach
  split
  · rename_i choice
    rw [choice] at tight
    exact Nat.le_of_lt_succ tight
  · exact Nat.le_of_lt tight

theorem left (back : ReadsBack spell expr) {level : Nat} (above : power.level < level)
    (tight : BindingPower.conditional.level < level) :
    Starts power (Expr.grouped (expr.power.level < level) (bare spell expr)) level expr := by
  refine back.grouped fun bare => ?_
  have holds : level ≤ expr.power.level := Nat.not_lt.mp (of_decide_eq_false bare)
  rw [reach_of_tight (Nat.lt_of_lt_of_le tight holds)]
  exact ⟨.inr (Nat.lt_of_lt_of_le above holds), holds⟩

theorem choice (back : ReadsBack spell expr) (above : power.level < BindingPower.conditional.level) :
    Starts power (Expr.grouped (expr.power = .conditional) (bare spell expr)) BindingPower.conditional.level expr := by
  refine back.grouped fun bare => ?_
  have tight := expr.choice_level (of_decide_eq_false bare)
  rw [reach_of_tight tight]
  exact ⟨.inr (Nat.lt_trans above tight), Nat.le_of_lt tight⟩

theorem sign (back : ReadsBack spell expr) :
    Reads .unary (Expr.grouped (expr.power.level < BindingPower.unary.level) (bare spell expr)) expr := by
  refine (back.grouped fun bare => ?_).reads (Nat.le_refl _)
  have tight : BindingPower.unary.level ≤ expr.power.level := Nat.not_lt.mp (of_decide_eq_false bare)
  rw [reach_of_tight (Nat.lt_of_lt_of_le (by decide) tight)]
  exact ⟨operand_of_level tight, tight⟩

variable {left right base key condition thenValue elseValue : Expr} {node : Node}

theorem field (back : ReadsBack spell base) (name : String) (nullSafe : Bool) :
    ReadsBack spell (field node base name nullSafe) := by
  intro power fits
  have above : power.level < BindingPower.member.level := fits.resolve_left nofun
  have starts := back.left above (by decide)
  rw [bare]
  cases nullSafe
  all_goals exact starts.followed (field_continues node base name _ _) above (Nat.le_refl _)

theorem index (back : ReadsBack spell base) (back' : ReadsBack spell key) (nullSafe : Bool) :
    ReadsBack spell (index node base key nullSafe) := by
  intro power fits
  have above : power.level < BindingPower.member.level := fits.resolve_left nofun
  have starts := back.left above (by decide)
  rw [bare]
  cases nullSafe
  all_goals exact starts.followed (index_continues back'.lowest node base _ _) above (Nat.le_refl _)

theorem unary (back : ReadsBack spell base) (operator : UnaryOperator) :
    ReadsBack spell (unary node operator base) := by
  refine of_operand ?_
  rw [bare]
  exact unary_operand back.sign node operator

theorem orElse (back : ReadsBack spell left) (back' : ReadsBack spell right) :
    ReadsBack spell (binary node .orElse left right) := by
  intro power fits
  have above : power.level < BindingPower.conditional.level := fits.resolve_left nofun
  rw [bare]
  exact (back.choice above).followed (orElse_continues back'.lowest node left) above (Nat.le_refl _)

theorem binary {operator : BinaryOperator} (other : operator ≠ .orElse) (back : ReadsBack spell left)
    (back' : ReadsBack spell right) : ReadsBack spell (binary node operator left right) := by
  intro power fits
  have above : power.level < operator.power.level := fits.resolve_left nofun
  have differ : operator.power ≠ .conditional := fun same => other ((operator_level operator).2.2.mp same)
  have tight : BindingPower.conditional.level < operator.power.level :=
    (Expr.binary node operator left right).choice_level differ
  have starts := (back.left above tight).followed (binary_continues (back'.write operator.power) other node left) above
    (Nat.le_refl _)
  rw [show (Expr.binary node operator left right).reach = operator.power.level from reach_of_tight tight]
  rw [bare.eq_def]
  cases operator with
  | orElse => exact absurd rfl other
  | _ => exact starts

theorem conditional (back : ReadsBack spell condition) (back' : ReadsBack spell thenValue)
    (back'' : ReadsBack spell elseValue) : ReadsBack spell (conditional node condition thenValue elseValue) := by
  intro power fits
  have above : power.level < BindingPower.conditional.level := fits.resolve_left nofun
  rw [bare]
  exact (back.choice above).followed (conditional_continues back'.lowest back''.lowest node condition) above (Nat.le_refl _)

end ReadsBack

mutual
theorem reads_back {spell : Node → String} : ∀ expr : Expr, (∀ part ∈ expr.subterms, part.Spellable spell) →
    ReadsBack spell expr
  | null _, _ => .of_operand (word_operand null rfl (fun _ => rfl) _)
  | bool _ true, _ => .of_operand (word_operand (bool · true) rfl (fun _ => rfl) _)
  | bool _ false, _ => .of_operand (word_operand (bool · false) rfl (fun _ => rfl) _)
  | int node value, spellable => by
    obtain ⟨positive, small⟩ := spellable (int node value) (self_mem_subterms _)
    have reads : ofWord? (.number, toString value) = some (int · value) := ofNumeral?_toString positive small
    exact .of_operand (word_operand (int · value) reads (fun _ => rfl) _)
  | float node bits, spellable => by
    have reads : ofWord? (.number, spell node) = some (float · bits) := spellable (float node bits) (self_mem_subterms _)
    exact .of_operand (word_operand (float · bits) reads (fun _ => rfl) _)
  | string _ value, _ => .of_operand (word_operand (string · value) rfl (fun _ => rfl) _)
  | var _ name, _ => .of_operand (word_operand (var · name) rfl (fun _ => rfl) _)
  | list node items, spellable => by
    rw [subterms, List.forall_mem_append] at spellable
    exact .of_operand (list_operand (fun item listed => (reads_back_all items spellable.1 item listed).lowest) node _)
  | map node entries, spellable => by
    rw [subterms, List.forall_mem_append] at spellable
    refine .of_operand (map_operand (fun entry listed => ?_) node _)
    have back := reads_back_entries entries spellable.1 entry listed
    exact ⟨back.1.lowest, back.2.lowest⟩
  | field node base name nullSafe, spellable => by
    rw [subterms, List.forall_mem_append] at spellable
    exact (reads_back base spellable.1).field name nullSafe
  | index node base key nullSafe, spellable => by
    rw [subterms, List.forall_mem_append, List.forall_mem_append] at spellable
    exact (reads_back base spellable.1.1).index (reads_back key spellable.1.2) nullSafe
  | unary node operator operand, spellable => by
    rw [subterms, List.forall_mem_append] at spellable
    exact (reads_back operand spellable.1).unary operator
  | binary node operator left right, spellable => by
    rw [subterms, List.forall_mem_append, List.forall_mem_append] at spellable
    have first := reads_back left spellable.1.1
    have second := reads_back right spellable.1.2
    by_cases same : operator = .orElse
    · subst same
      exact first.orElse second
    · exact .binary same first second
  | conditional node condition thenValue elseValue, spellable => by
    rw [subterms, List.forall_mem_append, List.forall_mem_append, List.forall_mem_append] at spellable
    exact (reads_back condition spellable.1.1.1).conditional (reads_back thenValue spellable.1.1.2)
      (reads_back elseValue spellable.1.2)
  | call node name args, spellable => by
    rw [subterms, List.forall_mem_append] at spellable
    exact .of_operand (call_operand (fun arg listed => (reads_back_all args spellable.1 arg listed).lowest) node name _)

theorem reads_back_all {spell : Node → String} : ∀ exprs : List Expr,
    (∀ part ∈ subtermsOf exprs, part.Spellable spell) → ∀ expr ∈ exprs, ReadsBack spell expr
  | [], _ => nofun
  | expr :: rest, spellable => by
    rw [subtermsOf, List.forall_mem_append] at spellable
    rw [List.forall_mem_cons]
    exact ⟨reads_back expr spellable.1, reads_back_all rest spellable.2⟩

theorem reads_back_entries {spell : Node → String} : ∀ entries : List (Expr × Expr),
    (∀ part ∈ subtermsOfEntries entries, part.Spellable spell) →
    ∀ entry ∈ entries, ReadsBack spell entry.1 ∧ ReadsBack spell entry.2
  | [], _ => nofun
  | (key, value) :: rest, spellable => by
    rw [subtermsOfEntries, List.forall_mem_append, List.forall_mem_append] at spellable
    rw [List.forall_mem_cons]
    exact ⟨⟨reads_back key spellable.1.1, reads_back value spellable.1.2⟩, reads_back_entries rest spellable.2⟩
end

-- The words that an expression may be written in where only what binds above a power is
-- taken in. What is one piece anyway needs no parentheses at any power.
def Written (spell : Node → String) (power : BindingPower) (expr : Expr) (words : List Word) : Prop :=
  words = write spell power expr ∨ expr.power = .primary ∧ words = bare spell expr

-- Reading takes back writing. Whatever comes after the words, as long as it does not bind
-- above the power, the expression is read, its places and numbers apart, and all of it is
-- left.
theorem parse_write (spell : Node → String) (power : BindingPower) (expr : Expr)
    (spellable : ∀ part ∈ expr.subterms, part.Spellable spell) {words : List Word}
    (written : expr.Written spell power words) (cursor : Cursor) (rest : List Token) (spells : cursor.Spells words rest)
    (loose : (ahead rest).level ≤ power.level) :
    ∃ found next shorter, parse power cursor = .ok found next shorter ∧ found.shape = expr.shape ∧ next.rest = rest := by
  have back := reads_back expr spellable
  have reads : Reads power words expr := by
    rcases written with same | ⟨atom, same⟩
    · subst same
      exact back.write power
    · subst same
      refine (back power (.inl (operand_of_primary atom))).reads ?_
      rw [reach, atom]
      cases power <;> decide
  obtain ⟨found, next, same, there, shorter, given⟩ := reads cursor rest spells loose
  exact ⟨found, next, shorter, given, same, there⟩

-- `-($a + 5) * (($b ?: null) ? [] : [:])?.x[2.5]`, and a `+` after it
def mixedExpr : Expr :=
  let node := Node.numbered 0
  binary node .times (unary node .negate (binary node .plus (var node "a") (int node 5)))
    (index node
      (field node
        (conditional node (binary node .orElse (var node "b") (null node)) (list node []) (map node [])) "x" true)
      (float node 0x4004000000000000) false)

def mixedWords : List Word := write (fun _ => "2.5") .additive mixedExpr

def plusToken : Token := ⟨.plus, "+", .nowhere⟩

def mixedCursor : Cursor :=
  ⟨mixedWords.map (fun word => ⟨word.1, word.2, .nowhere⟩) ++ [plusToken], "", .nowhere, .nowhere, 0⟩

theorem mixedExpr_spellable : ∀ part ∈ mixedExpr.subterms, part.Spellable fun _ => "2.5" := by
  have half : ofNumeral? "2.5" = some (float · 0x4004000000000000) := by
    have bits : Numeral.binary64? "2.5".toList = some 0x4004000000000000 := by decide +kernel
    rw [ofNumeral?, if_pos (by decide), bits]
    rfl
  simp [mixedExpr, subterms, subtermsOf, subtermsOfEntries, Spellable, half]

theorem parse_write_mixedExpr :
    (∀ part ∈ mixedExpr.subterms, part.Spellable fun _ => "2.5") ∧
      mixedExpr.Written (fun _ => "2.5") .additive mixedWords ∧
      mixedWords.map Prod.snd = ["-", "(", "a", "+", "5", ")", "*", "(", "(", "b", "?:", "null", ")", "?", "[", "]", ":",
        "[", ":", "]", ")", "?.", "x", "[", "2.5", "]"] ∧
      mixedCursor.Spells mixedWords [plusToken] ∧ (ahead [plusToken]).level ≤ BindingPower.additive.level ∧
      ∃ found next shorter, parse .additive mixedCursor = .ok found next shorter ∧ found.shape = mixedExpr.shape ∧
        next.rest = [plusToken] := by
  have written : mixedExpr.Written (fun _ => "2.5") .additive mixedWords := .inl rfl
  have spells : mixedCursor.Spells mixedWords [plusToken] := by
    refine spells_of_rest rfl ?_
    rw [List.map_map]
    exact List.map_id mixedWords
  have loose : (ahead [plusToken]).level ≤ BindingPower.additive.level := by decide
  exact ⟨mixedExpr_spellable, written, by decide +kernel, spells, loose,
    parse_write _ .additive mixedExpr mixedExpr_spellable written mixedCursor [plusToken] spells loose⟩

end TypedTemplate.Expr
