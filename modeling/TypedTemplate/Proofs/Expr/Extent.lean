import TypedTemplate.Proofs.Expr.Children
import TypedTemplate.Proofs.Expr.Phrase
import TypedTemplate.Proofs.Token.Extent

namespace TypedTemplate.Expr

open Token (InOrder Spread)

-- An expression made of some tokens: so is all that is inside it, with every part in its place.
def Lies (tokens : List Token) (expr : Expr) : Prop :=
  ∀ term ∈ expr.subterms, term.span.Among tokens ∧ term.span.Encloses (term.children.map Expr.span)

variable {tokens tokens' : List Token} {expr : Expr} {first last : Span}

theorem Lies.mono (lies : expr.Lies tokens) (more : tokens ⊆ tokens') : expr.Lies tokens' :=
  fun term inside => ⟨(lies term inside).1.mono more, (lies term inside).2⟩

theorem Lies.span (lies : expr.Lies tokens) : expr.span.Among tokens := (lies expr expr.self_mem_subterms).1

theorem Lies.spread (lies : expr.Lies tokens) : Spread tokens [expr.span] := .single lies.span

theorem lies_of_children (among : expr.span.Among tokens) (encloses : expr.span.Encloses (expr.children.map Expr.span))
    (inside : ∀ child ∈ expr.children, child.Lies tokens) : expr.Lies tokens := by
  intro term part
  rw [subterms_eq] at part
  rcases List.mem_append.mp part with deeper | itself
  · obtain ⟨child, listed, part⟩ := List.mem_flatMap.mp deeper
    exact inside child listed term part
  · rw [List.mem_singleton.mp itself]
    exact ⟨among, encloses⟩

theorem lies_of_token {token : Token} (ordered : InOrder [token]) (same : expr.span = token.span)
    (simple : expr.children = []) : expr.Lies [token] := by
  refine lies_of_children (same ▸ ordered.among) ?_ ?_
  · rw [simple]
    exact .none _
  · rw [simple]
    exact nofun

theorem lies_of_spread (middle : List Span) (spread : Spread tokens (first :: (middle ++ [last])))
    (same : expr.span = ⟨first.start, last.stop⟩)
    (listed : (expr.children.map Expr.span).Sublist (first :: (middle ++ [last])))
    (inside : ∀ child ∈ expr.children, child.Lies tokens) : expr.Lies tokens :=
  lies_of_children (same ▸ spread.whole) (same ▸ spread.encloses listed) inside

def Row (tokens : List Token) (exprs : List Expr) : Prop :=
  Spread tokens (exprs.map Expr.span) ∧ ∀ expr ∈ exprs, expr.Lies tokens

theorem Row.none (tokens : List Token) : Row tokens [] := ⟨.none tokens, nofun⟩

theorem Lies.row (lies : expr.Lies tokens) : Row tokens [expr] := ⟨lies.spread, by simpa using lies⟩

theorem Row.append {exprs exprs' : List Expr} (ordered : InOrder (tokens ++ tokens')) (earlier : Row tokens exprs)
    (later : Row tokens' exprs') : Row (tokens ++ tokens') (exprs ++ exprs') := by
  refine ⟨?_, fun expr listed => ?_⟩
  · rw [List.map_append]
    exact earlier.1.append ordered later.1
  · rcases List.mem_append.mp listed with before | after
    · exact (earlier.2 expr before).mono (List.subset_append_left _ _)
    · exact (later.2 expr after).mono (List.subset_append_right _ _)

theorem Row.skip {exprs : List Expr} {token : Token} (row : Row tokens exprs) : Row (token :: tokens) exprs :=
  ⟨row.1.mono (List.subset_cons_self _ _), fun expr listed => (row.2 expr listed).mono (List.subset_cons_self _ _)⟩

theorem Row.before {exprs : List Expr} (row : Row tokens exprs) (tokens' : List Token) : Row (tokens ++ tokens') exprs :=
  ⟨row.1.mono (List.subset_append_left _ _), fun expr listed => (row.2 expr listed).mono (List.subset_append_left _ _)⟩

theorem Row.closed {exprs : List Expr} {closing : Token} (row : Row tokens exprs) (ordered : InOrder (tokens ++ [closing])) :
    Spread (tokens ++ [closing]) (exprs.map Expr.span ++ [closing.span]) :=
  row.1.append ordered (.single ordered.right.among)

mutual
theorem Phrase.lies : ∀ {tokens : List Token} {expr : Expr}, Phrase tokens expr → InOrder tokens → expr.Lies tokens
  | _, _, .null _, ordered | _, _, .yes _, ordered | _, _, .no _, ordered | _, _, .int _ _, ordered
  | _, _, .float _ _, ordered | _, _, .string _, ordered | _, _, .var _, ordered => lies_of_token ordered rfl rfl
  | _, _, .group _ read _, ordered => (read.lies ordered.tail.left).mono (by simp)
  | _, _, .list _ read _, ordered => by
    have row := read.lies ordered.tail.left
    refine lies_of_spread _ (.cons ordered (row.closed ordered.tail)) rfl ?_ (row.before _).skip.2
    exact (List.sublist_append_left _ _).cons _
  | _, _, .emptyMap _, ordered => by
    have whole := Spread.cons ordered (.cons ordered.tail (.single ordered.tail.tail.among))
    exact lies_of_spread [_] whole rfl (List.nil_sublist _) nofun
  | _, _, .map _ read _ _, ordered => by
    have row := read.lies ordered.tail.left
    refine lies_of_spread _ (.cons ordered (row.closed ordered.tail)) rfl ?_ (row.before _).skip.2
    exact (List.sublist_append_left _ _).cons _
  | _, _, .call _ read _, ordered => by
    have row := read.lies ordered.tail.tail.left
    have whole := Spread.cons ordered (.cons ordered.tail (row.closed ordered.tail.tail))
    refine lies_of_spread (_ :: _) whole rfl ?_ (row.before _).skip.skip.2
    exact ((List.sublist_append_left _ _).cons _).cons _
  | _, _, .field read _, ordered => by
    have base := (read.lies ordered.left).row
    have whole := base.1.append ordered (.cons ordered.right (.single ordered.right.tail.among))
    refine lies_of_spread [_] whole rfl ?_ (base.before _).2
    exact List.sublist_append_left _ _
  | _, _, .index read _ inside _, ordered => by
    have base := (read.lies ordered.left).row
    have key := (inside.lies ordered.right.tail.left).row
    have whole := base.1.append ordered (.cons ordered.right (key.closed ordered.right.tail))
    refine lies_of_spread [_, _] whole rfl ?_ (base.append ordered (key.before _).skip).2
    exact (((List.sublist_append_left _ _).cons _).cons_cons _)
  | _, _, .unary _ read, ordered => by
    have operand := (read.lies ordered.tail).row
    refine lies_of_spread [] (.cons ordered operand.1) rfl ?_ operand.skip.2
    exact List.sublist_cons_self _ _
  | _, _, .binary read _ read', ordered => by
    have left := (read.lies ordered.left).row
    have right := (read'.lies ordered.right.tail).row
    have whole := left.1.append ordered (.cons ordered.right right.1)
    refine lies_of_spread [_] whole rfl ?_ (left.append ordered right.skip).2
    exact (List.sublist_cons_self _ _).cons_cons _
  | _, _, .conditional read _ read' _ read'', ordered => by
    have condition := (read.lies ordered.left).row
    have thenValue := (read'.lies ordered.right.tail.left).row
    have elseValue := (read''.lies ordered.right.tail.right.tail).row
    have later := thenValue.1.append ordered.right.tail (.cons ordered.right.tail.right elseValue.1)
    have whole := condition.1.append ordered (.cons ordered.right later)
    refine lies_of_spread [_, _, _] whole rfl ?_
      (condition.append ordered (thenValue.append ordered.right.tail elseValue.skip).skip).2
    exact ((((List.sublist_cons_self _ _).cons_cons _).cons _).cons_cons _)

theorem Items.lies : ∀ {tokens : List Token} {items : List Expr}, Items tokens items → InOrder tokens → Row tokens items
  | _, _, .none, _ => .none _
  | _, _, .last read, ordered => (read.lies ordered).row
  | _, _, .more read _ others, ordered =>
    (read.lies ordered.left).row.append ordered (others.lies ordered.right.tail).skip

theorem Entries.lies : ∀ {tokens : List Token} {entries : List (Expr × Expr)}, Entries tokens entries → InOrder tokens →
    Row tokens (entryExprs entries)
  | _, _, .none, _ => .none _
  | _, _, .last read _ read', ordered =>
    (read.lies ordered.left).row.append ordered (read'.lies ordered.right.tail).row.skip
  | _, _, .more read _ read' _ others, ordered => by
    have value := (read'.lies ordered.right.tail.left).row
    have rest := others.lies ordered.right.tail.right.tail
    exact (read.lies ordered.left).row.append ordered (value.append ordered.right.tail rest.skip).skip
end

end TypedTemplate.Expr
