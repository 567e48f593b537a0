import TypedTemplate.Proofs.Expr.Blame

namespace TypedTemplate

open Log

namespace Expr

theorem apart_append {terms terms' : List Expr} (distinct : ((terms ++ terms').map id).Nodup) :
    (terms.map id).Disjoint (terms'.map id) := by
  rw [List.map_append] at distinct
  exact List.disjoint_of_nodup_append distinct

theorem mem_subtermsOf {expr : Expr} {exprs : List Expr} (listed : expr ∈ exprs) : expr ∈ subtermsOf exprs := by
  induction exprs with
  | nil => cases listed
  | cons first rest ih =>
    rw [subtermsOf]
    rcases List.mem_cons.mp listed with same | later
    · subst same
      exact List.mem_append_left _ expr.self_mem_subterms
    · exact List.mem_append_right _ (ih later)

theorem sublist_subtermsOf (exprs : List Expr) : exprs.Sublist (subtermsOf exprs) := by
  induction exprs with
  | nil => exact .slnil
  | cons first rest ih =>
    rw [subtermsOf]
    exact (List.singleton_sublist.mpr first.self_mem_subterms).append ih

theorem mem_subtermsOfEntries {entry : Expr × Expr} {entries : List (Expr × Expr)} (listed : entry ∈ entries) :
    entry.1 ∈ subtermsOfEntries entries := by
  induction entries with
  | nil => cases listed
  | cons first rest ih =>
    rw [subtermsOfEntries]
    rcases List.mem_cons.mp listed with same | later
    · subst same
      exact List.mem_append_left _ (List.mem_append_left _ entry.1.self_mem_subterms)
    · exact List.mem_append_right _ (ih later)

section mismatches

variable (typeOf : Expr → Ty)

theorem of_mismatch {args : List Expr} {params : List Ty} {diagnostic : Diagnostic}
    (listed : diagnostic ∈ mismatches args (args.map typeOf) params) :
    ∃ arg ∈ args, typeOf arg ≠ .unknown ∧
      ∃ expected received, diagnostic = blame arg.node (.argumentTypeMismatch expected received) := by
  induction args generalizing params with
  | nil => cases listed
  | cons arg rest ih =>
    cases params with
    | nil => cases listed
    | cons param others =>
      have later (found : diagnostic ∈ mismatches rest (rest.map typeOf) others) : ∃ other ∈ arg :: rest,
          typeOf other ≠ .unknown ∧
            ∃ expected received, diagnostic = blame other.node (.argumentTypeMismatch expected received) := by
        obtain ⟨other, inside, reason⟩ := ih found
        exact ⟨other, List.mem_cons_of_mem _ inside, reason⟩
      rw [List.map_cons, mismatches] at listed
      split at listed
      · exact later listed
      · rename_i misfit
        rcases List.mem_cons.mp listed with same | found
        · refine ⟨arg, List.mem_cons_self, fun unknown => misfit ?_, _, _, same⟩
          rw [unknown]
          rfl
        · exact later found

theorem mismatches_sublist (args : List Expr) (params : List Ty) :
    ((mismatches args (args.map typeOf) params).filterMap Diagnostic.node).Sublist (args.map Expr.id) := by
  induction args generalizing params with
  | nil => exact .slnil
  | cons arg rest ih =>
    cases params with
    | nil => exact List.nil_sublist _
    | cons param others =>
      rw [List.map_cons, List.map_cons, mismatches]
      split
      · exact (ih others).cons _
      · exact (ih others).cons_cons _

end mismatches

theorem of_repeatedKey? {keys : List (Expr × String)} {seen : List String} {key : Expr} {name : String}
    (found : repeatedKey? seen keys = some (key, name)) : (key, name) ∈ keys := by
  induction keys generalizing seen with
  | nil => cases found
  | cons first rest ih =>
    obtain ⟨key', name'⟩ := first
    rw [repeatedKey?] at found
    split at found
    · cases found
      exact List.mem_cons_self
    · exact List.mem_cons_of_mem _ (ih found)

theorem literal_of_mapM {keys : List Expr} {names : List String} (literals : keys.mapM stringLiteral? = some names) :
    ∀ key ∈ keys, ∃ name, key.stringLiteral? = some name := by
  induction keys generalizing names with
  | nil => exact nofun
  | cons first rest ih =>
    rw [List.mapM_cons] at literals
    obtain ⟨name, head, others⟩ := Option.bind_eq_some_iff.mp literals
    obtain ⟨names', tail, _⟩ := Option.bind_eq_some_iff.mp others
    exact List.forall_mem_cons.mpr ⟨⟨name, head⟩, ih tail⟩

theorem type_of_literal (context : Context) (scope : Scope) {key : Expr} {name : String}
    (literal : key.stringLiteral? = some name) : (key.infer context scope).type = .string := by
  cases key with
  | string => rfl
  | _ => cases literal

theorem call_accounts {parts : Log} {iterables args : List Expr} {typeOf : Expr → Ty}
    (accounts : parts.Accounts (subtermsOf args) iterables) (clears : ∀ arg ∈ args, parts.Clears arg (typeOf arg))
    (context : Context) (node : Node) (name : String) (distinct : (call node name args).ids.Nodup) :
    (settle node parts (callType context node name args (args.map typeOf))).Accounts (call node name args) iterables := by
  have failing {fault : Fault} (own : fault.isOwn) :
      (settle node parts (judged node (.error fault))).Accounts (call node name args) iterables :=
    Typed.Accounts.judged accounts rfl distinct fun other failed => by cases failed; exact own
  unfold callType
  split
  · exact failing rfl
  · rename_i signature _
    split
    · exact failing rfl
    split
    · exact failing rfl
    split
    · exact Typed.Accounts.settle accounts rfl distinct (fun _ => rfl) .nil nofun nofun
    · have once := mismatches_sublist typeOf args signature.params
      refine Typed.Accounts.settle accounts rfl distinct (absurd rfl) ?_ ?_ ?_
      · refine List.Nodup.sublist (once.trans ((sublist_subtermsOf args).map id)) ?_
        exact (distinct_append distinct).1
      · intro id listed
        obtain ⟨diagnostic, found, about⟩ := List.mem_filterMap.mp listed
        obtain ⟨arg, inside, known, _, _, same⟩ := of_mismatch typeOf found
        subst same
        cases about
        exact (clears arg inside).clear known
      · intro diagnostic found id about
        obtain ⟨arg, inside, known, _, _, same⟩ := of_mismatch typeOf found
        subst same
        cases about
        refine ⟨arg, List.mem_append_left _ (mem_subtermsOf inside), rfl, rfl, ?_⟩
        refine .argument (self_mem_subterms _) inside List.mem_cons_self ?_ known
        exact List.mem_cons_of_mem _ (clears arg inside).typed

theorem map_accounts {parts : Log} {iterables : List Expr} {entries : List (Expr × Expr)} {context : Context}
    {scope : Scope} (accounts : parts.Accounts (subtermsOfEntries entries) iterables)
    (clears : ∀ entry ∈ entries, parts.Clears entry.1 (entry.1.infer context scope).type)
    (node : Node) (distinct : (map node entries).ids.Nodup) (keyTypes valueTypes : List Ty) :
    (settle node parts (literalType (entries.map Prod.fst) keyTypes valueTypes)).Accounts (map node entries) iterables := by
  unfold literalType
  split
  · rename_i first names literals
    split
    · rename_i key name repeated
      have listed := List.of_mem_zip (of_repeatedKey? repeated)
      obtain ⟨⟨later, value⟩, inside, same⟩ := List.mem_map.mp listed.1
      subst same
      obtain ⟨_, literal⟩ := literal_of_mapM literals _ listed.1
      have cleared := clears _ inside
      rw [type_of_literal context scope literal] at cleared
      have known : Ty.string ≠ .unknown := nofun
      refine Typed.Accounts.settle accounts rfl distinct (absurd rfl) (List.nodup_singleton _) ?_ ?_
      · intro id found
        rw [List.mem_singleton.mp found]
        exact cleared.clear known
      · intro diagnostic found id about
        rw [List.mem_singleton.mp found] at about ⊢
        cases about
        refine ⟨later, List.mem_append_left _ (mem_subtermsOfEntries inside), rfl, rfl, ?_⟩
        exact .key (self_mem_subterms _) inside List.mem_cons_self (List.mem_cons_of_mem _ cleared.typed) known
    · exact Typed.Accounts.settle accounts rfl distinct (fun _ => rfl) .nil nofun nofun
  · exact Typed.Accounts.settle accounts rfl distinct (fun _ => rfl) .nil nofun nofun

-- Whatever an expression is checked against, every diagnostic found in it blames one
-- expression, each at most once and for a reason.
mutual
theorem infer_accounts (context : Context) (iterables : List Expr) : ∀ (expr : Expr) (scope : Scope), expr.ids.Nodup →
    (expr.infer context scope).Accounts expr iterables
  | null _, _, distinct | bool _ _, _, distinct | int _ _, _, distinct | float _ _, _, distinct
  | string _ _, _, distinct => Typed.Accounts.judged .empty rfl distinct nofun
  | var node name, scope, distinct => by
    rw [infer]
    exact Typed.Accounts.judged .empty rfl distinct fun _ failed => varType_own failed
  | list node items, scope, distinct => by
    obtain ⟨parts, _⟩ := inferAll_accounts context iterables items scope (distinct_append distinct).1
    rw [infer]
    exact Typed.Accounts.judged parts rfl distinct nofun
  | map node entries, scope, distinct => by
    obtain ⟨parts, clears⟩ := inferEntries_accounts context iterables entries scope (distinct_append distinct).1
    rw [infer]
    exact map_accounts parts clears node distinct _ _
  | field node base name nullSafe, scope, distinct => by
    have part := infer_accounts context iterables base scope (distinct_append distinct).1
    rw [infer]
    refine Typed.Accounts.judged part.log rfl distinct fun fault failed => ?_
    split at failed
    · cases failed
    · exact access_own failed
  | index node base key nullSafe, scope, distinct => by
    have apart := distinct_append (distinct_append distinct).1
    have part := infer_accounts context iterables base scope apart.1
    have keyPart := infer_accounts context iterables key scope apart.2
    have parts := part.log.append keyPart.log (apart_append (distinct_append distinct).1)
    rw [infer]
    exact Typed.Accounts.judged parts rfl distinct fun _ failed => access_own failed
  | unary node operator operand, scope, distinct => by
    have part := infer_accounts context iterables operand scope (distinct_append distinct).1
    rw [infer]
    exact Typed.Accounts.judged part.log rfl distinct fun _ failed => unaryType_own failed
  | binary node operator left right, scope, distinct => by
    have apart := distinct_append (distinct_append distinct).1
    have leftPart := infer_accounts context iterables left scope apart.1
    have rightPart := infer_accounts context iterables right
      (rightScope context.version.isModern scope operator left (left.infer context scope)) apart.2
    have parts := leftPart.log.append rightPart.log (apart_append (distinct_append distinct).1)
    rw [infer]
    exact Typed.Accounts.judged parts rfl distinct fun _ failed => binaryType_own failed
  | conditional node condition thenValue elseValue, scope, distinct => by
    have outer := distinct_append (distinct_append distinct).1
    have inner := distinct_append outer.1
    have part := infer_accounts context iterables condition scope inner.1
    have thenPart := infer_accounts context iterables thenValue (scope.under
      (condition.refine (condition.infer context scope).log.typeOf context.version.isModern).whenTrue) inner.2
    have elsePart := infer_accounts context iterables elseValue (scope.under
      (condition.refine (condition.infer context scope).log.typeOf context.version.isModern).whenFalse) outer.2
    have parts := (part.log.append thenPart.log (apart_append outer.1)).append elsePart.log
      (apart_append (distinct_append distinct).1)
    rw [infer]
    exact Typed.Accounts.judged parts rfl distinct nofun
  | call node name args, scope, distinct => by
    obtain ⟨parts, clears⟩ := inferAll_accounts context iterables args scope (distinct_append distinct).1
    rw [infer, types_inferAll]
    exact call_accounts parts clears context node name distinct

theorem inferAll_accounts (context : Context) (iterables : List Expr) : ∀ (exprs : List Expr) (scope : Scope),
    ((subtermsOf exprs).map id).Nodup →
    (Log.concat ((inferAll context scope exprs).map Typed.log)).Accounts (subtermsOf exprs) iterables ∧
      ∀ expr ∈ exprs, (Log.concat ((inferAll context scope exprs).map Typed.log)).Clears expr
        (expr.infer context scope).type
  | [], _, _ => ⟨.empty, nofun⟩
  | expr :: rest, scope, distinct => by
    have apart := apart_append distinct
    have first := infer_accounts context iterables expr scope (distinct_append distinct).1
    obtain ⟨others, clears⟩ := inferAll_accounts context iterables rest scope (distinct_append distinct).2
    rw [inferAll, List.map_cons, Log.concat]
    refine ⟨first.log.append others apart, List.forall_mem_cons.mpr ⟨?_, fun other listed => ?_⟩⟩
    · exact first.clears.left fun blamed => apart expr.id_mem_ids (others.mem_of_blamed blamed)
    · refine (clears other listed).right fun blamed => ?_
      exact apart (first.log.mem_of_blamed blamed) (List.mem_map_of_mem (mem_subtermsOf listed))

theorem inferEntries_accounts (context : Context) (iterables : List Expr) : ∀ (entries : List (Expr × Expr))
    (scope : Scope), ((subtermsOfEntries entries).map id).Nodup →
    (Log.concat ((inferEntries context scope entries).map fun part => part.1.log ++ part.2.log)).Accounts
        (subtermsOfEntries entries) iterables ∧
      ∀ entry ∈ entries, (Log.concat ((inferEntries context scope entries).map fun part => part.1.log ++ part.2.log)).Clears
        entry.1 (entry.1.infer context scope).type
  | [], _, _ => ⟨.empty, nofun⟩
  | (key, value) :: rest, scope, distinct => by
    have apart := apart_append distinct
    have pair := (distinct_append distinct).1
    have keyPart := infer_accounts context iterables key scope (distinct_append pair).1
    have valuePart := infer_accounts context iterables value scope (distinct_append pair).2
    obtain ⟨others, clears⟩ := inferEntries_accounts context iterables rest scope (distinct_append distinct).2
    have first := keyPart.log.append valuePart.log (apart_append pair)
    rw [inferEntries, List.map_cons, Log.concat]
    refine ⟨first.append others apart, List.forall_mem_cons.mpr ⟨?_, fun other listed => ?_⟩⟩
    · refine (keyPart.clears.left fun blamed => ?_).left fun blamed => ?_
      · exact apart_append pair key.id_mem_ids (valuePart.log.mem_of_blamed blamed)
      · refine apart ?_ (others.mem_of_blamed blamed)
        exact List.mem_map_of_mem (List.mem_append_left _ key.self_mem_subterms)
    · refine (clears other listed).right fun blamed => ?_
      exact apart (first.mem_of_blamed blamed) (List.mem_map_of_mem (mem_subtermsOfEntries listed))
end

end Expr
end TypedTemplate
