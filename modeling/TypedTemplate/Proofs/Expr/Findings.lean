import TypedTemplate.Proofs.Expr.Agreement
import TypedTemplate.Proofs.Expr.Cause

namespace TypedTemplate

namespace Log

def TypesAlike (a b : Log) (terms : List Expr) : Prop :=
  ∀ term ∈ terms, ∃ type, a.typeOf term.id = some type ∧ b.typeOf term.id = some type

def reportedIn (log : Log) (expr : Expr) : List Diagnostic :=
  log.diagnostics.filter fun diagnostic => diagnostic.node.any fun id => expr.ids.contains id

structure AlikeOn (expr : Expr) (a b : Log) : Prop where
  types : a.TypesAlike b expr.subterms
  reports : a.reportedIn expr = b.reportedIn expr

def Placed (log : Log) : Prop := ∀ diagnostic ∈ log.diagnostics, ∃ id ∈ log.numbers, diagnostic.node = some id

variable {a b c : Log} {terms : List Expr} {expr : Expr}

theorem TypesAlike.symm (alike : a.TypesAlike b terms) : b.TypesAlike a terms := by
  intro term listed
  obtain ⟨type, found, found'⟩ := alike term listed
  exact ⟨type, found', found⟩

theorem TypesAlike.trans (first : a.TypesAlike b terms) (second : b.TypesAlike c terms) : a.TypesAlike c terms := by
  intro term listed
  obtain ⟨type, found, shared⟩ := first term listed
  obtain ⟨type', shared', found'⟩ := second term listed
  rw [shared] at shared'
  cases shared'
  exact ⟨type, found, found'⟩

theorem TypesAlike.of_subset {part whole : Log} (within : part.types ⊆ whole.types) (distinct : whole.numbers.Nodup)
    (typed : ∀ term ∈ terms, term.id ∈ part.numbers) : part.TypesAlike whole terms := by
  intro term listed
  obtain ⟨type, found⟩ := typeOf_isSome (typed term listed)
  exact ⟨type, found, typeOf_of_mem distinct (within (mem_of_typeOf found))⟩

theorem AlikeOn.symm (alike : AlikeOn expr a b) : AlikeOn expr b a := ⟨alike.types.symm, alike.reports.symm⟩

theorem AlikeOn.trans (first : AlikeOn expr a b) (second : AlikeOn expr b c) : AlikeOn expr a c :=
  ⟨first.types.trans second.types, first.reports.trans second.reports⟩

theorem Placed.empty : Log.empty.Placed := nofun

theorem Placed.append (first : a.Placed) (second : b.Placed) : (a ++ b).Placed := by
  intro diagnostic listed
  rw [numbers_append]
  rcases List.mem_append.mp listed with earlier | later
  · obtain ⟨id, typed, about⟩ := first diagnostic earlier
    exact ⟨id, List.mem_append_right _ typed, about⟩
  · obtain ⟨id, typed, about⟩ := second diagnostic later
    exact ⟨id, List.mem_append_left _ typed, about⟩

theorem reportedIn_append (a b : Log) (expr : Expr) : (a ++ b).reportedIn expr = a.reportedIn expr ++ b.reportedIn expr :=
  List.filter_append ..

theorem reportedIn_apart (placed : a.Placed) (apart : a.numbers.Disjoint expr.ids) : a.reportedIn expr = [] := by
  refine List.filter_eq_nil_iff.mpr fun diagnostic listed => ?_
  obtain ⟨id, typed, about⟩ := placed diagnostic listed
  simpa [about] using fun inside => apart typed inside

end Log

namespace Expr

open Log

variable {context : Context} {scope : Scope} {expr : Expr}

theorem infer_placed (context : Context) (scope : Scope) (expr : Expr) : (expr.infer context scope).log.Placed := by
  intro diagnostic listed
  obtain ⟨term, inside, fault, _, same⟩ := infer_blames context expr scope diagnostic listed
  rw [same]
  exact ⟨term.id, mem_numbers_infer.mpr (List.mem_map_of_mem inside), rfl⟩

theorem reportedIn_infer (context : Context) (scope : Scope) (expr : Expr) :
    (expr.infer context scope).log.reportedIn expr = (expr.infer context scope).log.diagnostics := by
  refine List.filter_eq_self.mpr fun diagnostic listed => ?_
  obtain ⟨term, inside, fault, _, same⟩ := infer_blames context expr scope diagnostic listed
  rw [same]
  exact List.contains_iff_mem.mpr (List.mem_map_of_mem inside)

-- Whatever is found before and after it about other expressions, on an expression is found
-- what is found on it alone.
theorem infer_alikeOn {before after : Log} (first : before.Placed) (second : after.Placed)
    (distinct : (before ++ (expr.infer context scope).log ++ after).numbers.Nodup) :
    AlikeOn expr (expr.infer context scope).log (before ++ (expr.infer context scope).log ++ after) where
  types := by
    refine .of_subset (fun entry found => ?_) distinct fun term inside => ?_
    · exact mem_types_append.mpr (.inl (mem_types_append.mpr (.inr found)))
    · exact mem_numbers_infer.mpr (List.mem_map_of_mem inside)
  reports := by
    rw [numbers_append, numbers_append] at distinct
    have apart := List.disjoint_of_nodup_append (List.nodup_append.mp distinct).2.1
    have apart' := List.disjoint_of_nodup_append distinct
    have earlier : before.reportedIn expr = [] :=
      reportedIn_apart first fun id typed inside => apart (mem_numbers_infer.mpr inside) typed
    have later : after.reportedIn expr = [] :=
      reportedIn_apart second fun id typed inside => apart' typed (List.mem_append_left _ (mem_numbers_infer.mpr inside))
    rw [reportedIn_append, reportedIn_append, earlier, later, reportedIn_infer, List.nil_append, List.append_nil]

end Expr
end TypedTemplate
