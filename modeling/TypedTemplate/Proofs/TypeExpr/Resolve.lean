import TypedTemplate.TypeExpr

namespace TypedTemplate.TypeExpr

-- What an annotation asks of its parts: that a name stands for something, that a generic
-- type takes its arguments, that no earlier field of a record has the name of a field.
inductive Demand where
  | known (name : String) (position : Position)
  | takes (name : String) (args : List TypeExpr) (position : Position)
  | fresh (name : String) (earlier : List String) (position : Position)

namespace Demand

def Met (typeNamed : String → Option Ty) : Demand → Prop
  | known name _ => typeNamed name ≠ none
  | takes name args _ => name = "list" ∧ args.length = 1 ∨ name = "map" ∧ args.length = 2
  | fresh name earlier _ => name ∉ earlier

instance decidableMet (typeNamed : String → Option Ty) : (demand : Demand) → Decidable (demand.Met typeNamed)
  | known _ _ => inferInstanceAs (Decidable (_ ≠ _))
  | takes _ _ _ => inferInstanceAs (Decidable (_ ∨ _))
  | fresh _ _ _ => inferInstanceAs (Decidable (_ ∉ _))

def diagnostic : Demand → Diagnostic
  | known name position => ⟨.unknownType name, position, none⟩
  | takes name args position => ⟨.unknownType (generic name args position).text, position, none⟩
  | fresh name _ position => ⟨.duplicateKey name, position, none⟩

theorem diagnostic_nobody (demand : Demand) : demand.diagnostic.node = none := by
  cases demand <;> rfl

end Demand

-- The demands of an annotation in the order of its text, a generic type before its
-- arguments and the name of a field before its type.
mutual
def demands : TypeExpr → List Demand
  | named name position => [.known name position]
  | generic name args position => .takes name args position :: demandsOf args
  | record fields position => demandsOfFields position [] fields
  | union members => demandsOf members

def demandsOf : List TypeExpr → List Demand
  | [] => []
  | typeExpr :: rest => typeExpr.demands ++ demandsOf rest

def demandsOfFields (position : Position) (earlier : List String) : List (String × TypeExpr) → List Demand
  | [] => []
  | (name, type) :: rest => .fresh name earlier position :: (type.demands ++ demandsOfFields position (name :: earlier) rest)
end

mutual
def inside : TypeExpr → List TypeExpr
  | named name position => [named name position]
  | generic name args position => generic name args position :: insideAll args
  | record fields position => record fields position :: insideFields fields
  | union members => union members :: insideAll members

def insideAll : List TypeExpr → List TypeExpr
  | [] => []
  | typeExpr :: rest => typeExpr.inside ++ insideAll rest

def insideFields : List (String × TypeExpr) → List TypeExpr
  | [] => []
  | (_, type) :: rest => type.inside ++ insideFields rest
end

def Sound (typeNamed : String → Option Ty) : TypeExpr → Prop
  | named name _ => typeNamed name ≠ none
  | generic name args _ => name = "list" ∧ args.length = 1 ∨ name = "map" ∧ args.length = 2
  | record fields _ => (fields.map Prod.fst).Nodup
  | union _ => True

variable {typeNamed : String → Option Ty}

-- All demands are met where each part is well formed. The names of the fields that come
-- after `earlier` are its own names and none of those.
mutual
theorem met_iff_sound : ∀ typeExpr : TypeExpr, (∀ demand ∈ typeExpr.demands, demand.Met typeNamed) ↔
    ∀ part ∈ typeExpr.inside, part.Sound typeNamed
  | named name position => by rw [demands, inside, List.forall_mem_singleton, List.forall_mem_singleton]; rfl
  | generic name args position => by
    rw [demands, inside, List.forall_mem_cons, List.forall_mem_cons, met_iff_sound_all args]
    rfl
  | record fields position => by
    rw [demands, inside, List.forall_mem_cons, met_iff_sound_fields fields, Sound]
    simp
  | union members => by
    rw [demands, inside, List.forall_mem_cons, met_iff_sound_all members]
    exact (and_iff_right trivial).symm

theorem met_iff_sound_all : ∀ typeExprs : List TypeExpr, (∀ demand ∈ demandsOf typeExprs, demand.Met typeNamed) ↔
    ∀ part ∈ insideAll typeExprs, part.Sound typeNamed
  | [] => by simp [demandsOf, insideAll]
  | typeExpr :: rest => by
    rw [demandsOf, insideAll, List.forall_mem_append, List.forall_mem_append, met_iff_sound typeExpr, met_iff_sound_all rest]

theorem met_iff_sound_fields {position : Position} : ∀ (fields : List (String × TypeExpr)) {earlier : List String},
    (∀ demand ∈ demandsOfFields position earlier fields, demand.Met typeNamed) ↔
      ((fields.map Prod.fst).Nodup ∧ ∀ name ∈ fields.map Prod.fst, name ∉ earlier) ∧
        ∀ part ∈ insideFields fields, part.Sound typeNamed
  | [], earlier => by simp [demandsOfFields, insideFields]
  | (name, type) :: rest, earlier => by
    rw [demandsOfFields, insideFields, List.forall_mem_cons, List.forall_mem_append, List.forall_mem_append,
      met_iff_sound type, met_iff_sound_fields rest, List.map_cons, List.nodup_cons, List.forall_mem_cons]
    simp only [Demand.Met, List.mem_cons, not_or]
    grind
end

inductive Judged (typeNamed : String → Option Ty) {α : Type} (demands : List Demand) : Except Diagnostic α → Prop
  | ok (value : α) (met : ∀ demand ∈ demands, demand.Met typeNamed) : Judged typeNamed demands (.ok value)
  | error (demand : Demand) (first : demands.find? (¬ ·.Met typeNamed) = some demand) :
    Judged typeNamed demands (.error demand.diagnostic)

namespace Judged

variable {α β : Type} {demands demands' : List Demand} {rule : Except Diagnostic α}

theorem map (judged : Judged typeNamed demands rule) (f : α → β) : Judged typeNamed demands (rule.map f) := by
  cases judged with
  | ok value met => exact .ok (f value) met
  | error demand first => exact .error demand first

theorem fails (demand : Demand) (unmet : ¬ demand.Met typeNamed) :
    Judged typeNamed (demand :: demands) (.error demand.diagnostic : Except Diagnostic α) :=
  .error demand (List.find?_cons_of_pos (decide_eq_true unmet))

theorem meetsAll (met : ∀ demand ∈ demands, demand.Met typeNamed) (judged : Judged typeNamed demands' rule) :
    Judged typeNamed (demands ++ demands') rule := by
  cases judged with
  | ok value others => exact .ok value (List.forall_mem_append.mpr ⟨met, others⟩)
  | error unmet first =>
    have passed : demands.find? (¬ ·.Met typeNamed) = none := by simpa using met
    exact .error unmet (by rw [List.find?_append, passed, Option.none_or, first])

theorem meets {demand : Demand} (met : demand.Met typeNamed) (judged : Judged typeNamed demands rule) :
    Judged typeNamed (demand :: demands) rule :=
  judged.meetsAll (List.forall_mem_singleton.mpr met)

theorem andThen (judged : Judged typeNamed demands rule) {whole : Except Diagnostic β}
    (stops : ∀ diagnostic, rule = .error diagnostic → whole = .error diagnostic)
    (goesOn : ∀ value, rule = .ok value → Judged typeNamed demands' whole) :
    Judged typeNamed (demands ++ demands') whole := by
  cases judged with
  | ok value met => exact (goesOn value rfl).meetsAll met
  | error unmet first =>
    rw [stops _ rfl]
    exact .error unmet (by rw [List.find?_append, first, Option.some_or])

end Judged

theorem resolve_untaken {name : String} {args : List TypeExpr} {position : Position}
    (untaken : ¬ (Demand.takes name args position).Met typeNamed) :
    (generic name args position).resolve typeNamed = .error (Demand.takes name args position).diagnostic := by
  rw [resolve]
  · rfl
  · rintro element rfl rfl
    exact untaken (.inl ⟨rfl, rfl⟩)
  · rintro key value rfl rfl
    exact untaken (.inr ⟨rfl, rfl⟩)

mutual
theorem resolve_judged : ∀ typeExpr : TypeExpr, Judged typeNamed typeExpr.demands (typeExpr.resolve typeNamed)
  | named name position => by
    rw [demands, resolve]
    split
    · rename_i type known
      exact .ok type (List.forall_mem_singleton.mpr (by simp [Demand.Met, known]))
    · rename_i unknown
      exact .fails (.known name position) (not_not_intro unknown)
  | generic name args position => by
    rw [demands]
    by_cases taken : (Demand.takes name args position).Met typeNamed
    · refine .meets taken ?_
      match name, args, taken with
      | _, [element], .inl ⟨rfl, _⟩ =>
        rw [resolve, demandsOf, demandsOf, List.append_nil]
        exact (resolve_judged element).map Ty.list
      | _, [key, value], .inr ⟨rfl, _⟩ =>
        rw [resolve, demandsOf, demandsOf, demandsOf, List.append_nil]
        refine (resolve_judged key).andThen (fun _ failed => by rw [failed]) fun keyType found => ?_
        rw [found]
        exact (resolve_judged value).map (Ty.map keyType)
    · rw [resolve_untaken taken]
      exact .fails _ taken
  | record fields position => by
    rw [demands, resolve]
    exact (resolveFields_judged fields).map Ty.ofFields
  | union members => by
    rw [demands, resolve]
    exact (resolveAll_judged members).map Ty.unionOf

theorem resolveAll_judged : ∀ typeExprs : List TypeExpr,
    Judged typeNamed (demandsOf typeExprs) (resolveAll typeNamed typeExprs)
  | [] => .ok [] nofun
  | typeExpr :: rest => by
    rw [demandsOf, resolveAll]
    refine (resolve_judged typeExpr).andThen (fun _ failed => by rw [failed]) fun type found => ?_
    rw [found]
    exact (resolveAll_judged rest).map (type :: ·)

theorem resolveFields_judged {position : Position} : ∀ (fields : List (String × TypeExpr)) {earlier : List String},
    Judged typeNamed (demandsOfFields position earlier fields) (resolveFields typeNamed position earlier fields)
  | [], _ => .ok [] nofun
  | (name, type) :: rest, earlier => by
    rw [demandsOfFields, resolveFields]
    split
    · rename_i taken
      exact .fails (.fresh name earlier position) (not_not_intro (by simpa using taken))
    · rename_i free
      refine .meets (by simpa [Demand.Met] using free) ?_
      refine (resolve_judged type).andThen (fun _ failed => by rw [failed]) fun fieldType found => ?_
      rw [found]
      exact (resolveFields_judged rest).map ((name, fieldType) :: ·)
end

theorem resolve_error {typeExpr : TypeExpr} {diagnostic : Diagnostic}
    (failed : typeExpr.resolve typeNamed = .error diagnostic) :
    ∃ demand ∈ typeExpr.demands, demand.diagnostic = diagnostic := by
  have judged : Judged typeNamed typeExpr.demands (typeExpr.resolve typeNamed) := resolve_judged typeExpr
  rw [failed] at judged
  cases judged with
  | error demand first => exact ⟨demand, List.mem_of_find?_eq_some first, rfl⟩

-- An annotation stands for a type just where each of its parts is well formed, and what is
-- reported of one that does not is the first demand, in the order of its text, that is not met.
theorem resolve_finds_first (typeNamed : String → Option Ty) (typeExpr : TypeExpr) :
    ((∃ type, typeExpr.resolve typeNamed = .ok type) ↔ ∀ part ∈ typeExpr.inside, part.Sound typeNamed) ∧
      ∀ diagnostic, typeExpr.resolve typeNamed = .error diagnostic ↔
        ∃ demand, typeExpr.demands.find? (¬ ·.Met typeNamed) = some demand ∧ demand.diagnostic = diagnostic := by
  rw [← met_iff_sound]
  have judged : Judged typeNamed typeExpr.demands (typeExpr.resolve typeNamed) := resolve_judged typeExpr
  generalize typeExpr.resolve typeNamed = rule at judged
  cases judged with
  | ok value met =>
    have passed : typeExpr.demands.find? (¬ ·.Met typeNamed) = none := by simpa using met
    refine ⟨iff_of_true ⟨value, rfl⟩ met, fun diagnostic => iff_of_false nofun ?_⟩
    rintro ⟨demand, first, -⟩
    rw [passed] at first
    cases first
  | error demand first =>
    refine ⟨iff_of_false nofun fun met => ?_, fun diagnostic => ?_⟩
    · have unmet := List.find?_some first
      exact of_decide_eq_true unmet (met demand (List.mem_of_find?_eq_some first))
    · rw [first, Except.error.injEq]
      exact ⟨fun same => ⟨demand, rfl, same⟩, fun ⟨_, rfl, same⟩ => same⟩

-- The type of a field comes before the name of the next.
example : (record [("a", named "odd" .nowhere), ("a", named "odd" .nowhere)] .nowhere).resolve (fun _ => none) =
    .error ⟨.unknownType "odd", .nowhere, none⟩ := rfl

end TypedTemplate.TypeExpr
