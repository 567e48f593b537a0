import TypedTemplate.Proofs.Expr.Clean

namespace TypedTemplate

open Ty (Normal)

namespace Constraints

variable {a a' b b' : Constraints} {scope scope' inner' : Scope}

theorem Within.not_unknown (within : a.Within scope.Told) {key : RefKey} {type : Ty} (listed : a.lookup key = some type)
    (unknown : scope.read key = some .unknown) : False := by
  obtain ⟨whole, found, nullable, _⟩ := within key type listed
  cases found.symm.trans unknown
  cases nullable

theorem Within.normal (within : a.Within scope.Told) (normal : scope.Normal) : a.Within fun _ => Normal :=
  fun key type listed => (within key type listed).normal normal

theorem Matches.outer (matched : a.Matches a' inner') (narrows : inner'.Narrows scope') (normal' : scope'.Normal) :
    a.Matches a' scope' where
  free := matched.free
  told listed := by
    rcases matched.told listed with found | ⟨free, unknown⟩
    · exact .inl found
    · obtain ⟨whole, found, partOf⟩ := narrows.read unknown
      rw [partOf.whole_unknown (scope'.read_normal normal' found) rfl] at found
      exact .inr ⟨free, found⟩

theorem Matches.mergeAll (first : a.Matches a' scope') (second : b.Matches b' scope') (sorted : Sorted.IncreasingKeys b)
    (sorted' : Sorted.IncreasingKeys b') (within' : a'.Within scope'.Told) (narrower : b.Extends a)
    (narrower' : b'.Extends a') : (a.mergeAll b).Matches (a'.mergeAll b') scope' where
  free := by
    intro key free
    rw [lookup_mergeAll sorted] at free
    rw [lookup_mergeAll sorted']
    split at free
    · rename_i absent
      rw [second.free absent]
      exact first.free free
    · cases free
  told := by
    intro key type listed
    rw [lookup_mergeAll sorted] at listed
    rw [lookup_mergeAll sorted']
    cases told : b.lookup key with
    | none =>
      rw [told] at listed
      rw [second.free told]
      exact first.told listed
    | some later =>
      have same : type = later := by
        rw [told] at listed
        cases known : a.lookup key with
        | none => rw [known] at listed; cases listed; rfl
        | some earlier =>
          rw [known] at listed
          cases listed
          exact narrower key later earlier told known
      subst same
      rcases second.told told with ⟨type', told', blurs⟩ | ⟨free, unknown⟩
      · refine .inl ⟨type', ?_, blurs⟩
        rw [told']
        cases known' : a'.lookup key with
        | none => rfl
        | some earlier' => exact congrArg some (narrower' key type' earlier' told' known')
      · rw [free]
        cases known' : a'.lookup key with
        | none => exact .inr ⟨rfl, unknown⟩
        | some earlier' => exact (within'.not_unknown known' unknown).elim

theorem Matches.mergeCommon (first : a.Matches a' scope') (second : b.Matches b' scope')
    (within' : a'.Within scope'.Told) (within'' : b'.Within scope'.Told) (normal : a.Within fun _ => Normal)
    (normal' : b.Within fun _ => Normal) (outer : scope'.Normal) :
    (a.mergeCommon b).Matches (a'.mergeCommon b') scope' where
  free := by
    intro key free
    rw [lookup_mergeCommon] at free ⊢
    cases known : a.lookup key with
    | none => rw [first.free known]
    | some type =>
      cases told : b.lookup key with
      | none => rw [second.free told]; cases a'.lookup key <;> rfl
      | some other => rw [known, told] at free; cases free
  told := by
    intro key type listed
    rw [lookup_mergeCommon] at listed ⊢
    split at listed
    · rename_i known other told told'
      cases listed
      rcases first.told told with ⟨known', found, blurs⟩ | ⟨free, unknown⟩
      · rcases second.told told' with ⟨other', found', blurs'⟩ | ⟨free', unknown⟩
        · refine .inl ⟨known'.join other', by rw [found, found'], ?_⟩
          exact Ty.join_blurs (normal key known told) (within'.normal outer key known' found) (normal' key other told')
            (within''.normal outer key other' found') blurs blurs'
        · exact (within'.not_unknown found unknown).elim
      · exact .inr ⟨by rw [free], unknown⟩
    · cases listed

end Constraints
structure Refinements.Matches (known known' : Refinements) (scope' : Scope) : Prop where
  whenTrue : known.whenTrue.Matches known'.whenTrue scope'
  whenFalse : known.whenFalse.Matches known'.whenFalse scope'

namespace Refinements.Matches

variable {known known' : Refinements} {scope' : Scope}

theorem swap (matched : known.Matches known' scope') : known.swap.Matches known'.swap scope' :=
  ⟨matched.whenFalse, matched.whenTrue⟩

theorem none : Refinements.none.Matches Refinements.none scope' :=
  ⟨⟨fun free => free, nofun⟩, ⟨fun free => free, nofun⟩⟩

end Refinements.Matches

namespace Formula

variable {context : Context} {scope scope' : Scope}

theorem lookup_single {key asked : RefKey} {type found : Ty} :
    List.lookup asked [(key, type)] = some found ↔ asked = key ∧ type = found := by
  rw [List.lookup_cons]
  by_cases same : asked = key
  · simp [same]
  · rw [beq_eq_false_iff_ne.mpr same]
    simp [same]

theorem single_matches {key : RefKey} {type type' : Ty} (blurs : type.Blurs type') :
    Constraints.Matches [(key, type)] [(key, type')] scope' where
  free := by
    intro asked free
    rw [List.lookup_eq_none_iff] at free ⊢
    simpa using free
  told := by
    intro asked found listed
    obtain ⟨same, same'⟩ := lookup_single.mp listed
    subst same same'
    exact .inl ⟨type', List.lookup_cons_self, blurs⟩

theorem single_matches_nil {key : RefKey} {type : Ty} (unknown : scope'.read key = some .unknown) :
    Constraints.Matches [(key, type)] [] scope' where
  free _ := rfl
  told := by
    intro asked found listed
    obtain ⟨same, _⟩ := lookup_single.mp listed
    subst same
    exact .inr ⟨rfl, unknown⟩

theorem learn_matches {key : RefKey} {type type' : Ty} (normal : type.Normal) (normal' : type'.Normal)
    (blurs : type.Blurs type') (found' : scope'.read key = some type') :
    (learn key type).Matches (learn key type') scope' := by
  unfold learn
  by_cases known : type' = .unknown
  · subst known
    split
    · exact ⟨single_matches_nil found', single_matches_nil found'⟩
    · exact .none
  · split
    · rename_i nullable
      rw [if_pos ((blurs.isNullable_iff known).mp nullable)]
      exact ⟨single_matches (Ty.removeNull_blurs normal normal' blurs), single_matches (Ty.blurs_self .null)⟩
    · rename_i present
      rw [if_neg (mt (blurs.isNullable_iff known).mpr present)]
      exact .none

section right

-- The right side of a connective is reached knowing one side of what the left tells.
variable (context) {known known' : Constraints} (blurs : scope.Blurs scope')
  (constraints : known.Blurs known' scope scope') (right : Formula)
include blurs constraints

theorem right_normal : (right.evidence context (scope.under known)).Within fun _ => Normal :=
  (Invariant.normal context).evidence_within right (blurs.under constraints).normal

theorem right_within : (right.evidence context (scope'.under known')).Within scope'.Told :=
  (Invariant.narrows context blurs.normal').evidence_within right
    ((Scope.narrows_self scope').under constraints.sorted' blurs.normal' constraints.within')

theorem right_matches (matched : (right.evidence context (scope.under known)).Matches
    (right.evidence context (scope'.under known')) (scope'.under known')) :
    (right.evidence context (scope.under known)).Matches (right.evidence context (scope'.under known')) scope' :=
  have narrows := (Scope.narrows_self scope').under constraints.sorted' blurs.normal' constraints.within'
  ⟨matched.whenTrue.outer narrows blurs.normal', matched.whenFalse.outer narrows blurs.normal'⟩

end right

theorem evidence_blurs (formula : Formula) (blurs : scope.Blurs scope')
    (matched : (formula.evidence context scope).Matches (formula.evidence context scope') scope') :
    (formula.evidence context scope).whenTrue.Blurs (formula.evidence context scope').whenTrue scope scope' ∧
      (formula.evidence context scope).whenFalse.Blurs (formula.evidence context scope').whenFalse scope scope' := by
  have sorted := formula.evidence_sorted context scope
  have sorted' := formula.evidence_sorted context scope'
  have within := (Invariant.narrows context blurs.normal).evidence_within formula (Scope.narrows_self scope)
  have within' := (Invariant.narrows context blurs.normal').evidence_within formula (Scope.narrows_self scope')
  exact ⟨⟨matched.whenTrue, sorted.whenTrue, sorted'.whenTrue, within.whenTrue, within'.whenTrue⟩,
    ⟨matched.whenFalse, sorted.whenFalse, sorted'.whenFalse, within.whenFalse, within'.whenFalse⟩⟩

-- Induction on the condition, the right side of a connective in the scopes that the left
-- side leads to.
theorem evidence_matches (formula : Formula) (blurs : scope.Blurs scope')
    (solid : formula.Each context
      (fun scope reference key => scope.Solid key ∧ scope.read key = some (reference.infer context scope).type) scope) :
    (formula.evidence context scope).Matches (formula.evidence context scope') scope' := by
  induction formula generalizing scope scope' with
  | test nonNull reference key denotes =>
    obtain ⟨type', found', types⟩ := blurs.read solid.1 solid.2
    have same := Expr.infer_of_read context reference denotes found'
    have told := learn_matches (scope.read_normal blurs.normal solid.2) (scope'.read_normal blurs.normal' found') types found'
    rw [← same] at told
    cases nonNull with
    | true => exact told
    | false => exact told.swap
  | other condition => exact .none
  | negation operand ih => exact (ih blurs solid).swap
  | both left right first second =>
    have matched := first blurs solid.1
    obtain ⟨held, failed⟩ := left.evidence_blurs blurs matched
    have matched' := right_matches context blurs held right (second (blurs.under held) solid.2)
    have normal := (Invariant.normal context).evidence_within left blurs.normal
    have normal' := (Invariant.normal context).evidence_within left blurs.normal'
    have within' := right_within context blurs held right
    constructor
    · exact matched.whenTrue.mergeAll matched'.whenTrue (right.evidence_sorted context _).whenTrue
        (right.evidence_sorted context _).whenTrue held.within' (right.evidence_extends held.sorted normal.whenTrue).1
        (right.evidence_extends held.sorted' normal'.whenTrue).1
    · exact matched.whenFalse.mergeCommon matched'.whenFalse failed.within' within'.whenFalse normal.whenFalse
        (right_normal context blurs held right).whenFalse blurs.normal'
  | either left right first second =>
    have matched := first blurs solid.1
    obtain ⟨held, failed⟩ := left.evidence_blurs blurs matched
    have matched' := right_matches context blurs failed right (second (blurs.under failed) solid.2)
    have normal := (Invariant.normal context).evidence_within left blurs.normal
    have normal' := (Invariant.normal context).evidence_within left blurs.normal'
    have within' := right_within context blurs failed right
    constructor
    · exact matched.whenTrue.mergeCommon matched'.whenTrue held.within' within'.whenTrue normal.whenTrue
        (right_normal context blurs failed right).whenTrue blurs.normal'
    · exact matched.whenFalse.mergeAll matched'.whenFalse (right.evidence_sorted context _).whenFalse
        (right.evidence_sorted context _).whenFalse failed.within' (right.evidence_extends failed.sorted normal.whenFalse).2
        (right.evidence_extends failed.sorted' normal'.whenFalse).2

end Formula
end TypedTemplate
