import TypedTemplate.Proofs.TypeExpr.Phrase
import TypedTemplate.Proofs.TypeExpr.Resolve

namespace TypedTemplate.TypeExpr

mutual
def places : TypeExpr → List Position
  | named _ position => [position]
  | generic _ args position => position :: placesOf args
  | record fields position => position :: placesOfFields fields
  | union members => placesOf members

def placesOf : List TypeExpr → List Position
  | [] => []
  | typeExpr :: rest => typeExpr.places ++ placesOf rest

def placesOfFields : List (String × TypeExpr) → List Position
  | [] => []
  | (_, type) :: rest => type.places ++ placesOfFields rest
end

mutual
theorem demand_placed : ∀ typeExpr : TypeExpr, ∀ demand ∈ typeExpr.demands, demand.diagnostic.position ∈ typeExpr.places
  | named name position => by
    rw [demands, places, List.forall_mem_singleton]
    exact List.mem_singleton_self position
  | generic name args position => by
    rw [demands, places, List.forall_mem_cons]
    exact ⟨List.mem_cons_self, fun demand among => List.mem_cons_of_mem _ (demand_placed_all args demand among)⟩
  | record fields position => by
    rw [demands, places]
    exact demand_placed_fields fields
  | union members => by
    rw [demands, places]
    exact demand_placed_all members

theorem demand_placed_all : ∀ typeExprs : List TypeExpr, ∀ demand ∈ demandsOf typeExprs,
    demand.diagnostic.position ∈ placesOf typeExprs
  | [] => nofun
  | typeExpr :: rest => by
    rw [demandsOf, placesOf, List.forall_mem_append]
    exact ⟨fun demand among => List.mem_append_left _ (demand_placed typeExpr demand among),
      fun demand among => List.mem_append_right _ (demand_placed_all rest demand among)⟩

theorem demand_placed_fields {position : Position} : ∀ (fields : List (String × TypeExpr)) {earlier : List String},
    ∀ demand ∈ demandsOfFields position earlier fields, demand.diagnostic.position ∈ position :: placesOfFields fields
  | [], _ => nofun
  | (name, type) :: rest, earlier => by
    rw [demandsOfFields, placesOfFields, List.forall_mem_cons, List.forall_mem_append]
    refine ⟨List.mem_cons_self, fun demand among => ?_, fun demand among => ?_⟩
    · exact List.mem_cons_of_mem _ (List.mem_append_left _ (demand_placed type demand among))
    · exact List.cons_subset_cons _ (List.subset_append_right _ _) (demand_placed_fields rest demand among)
end

theorem resolve_placed {typeNamed : String → Option Ty} {typeExpr : TypeExpr} {diagnostic : Diagnostic}
    (failed : typeExpr.resolve typeNamed = .error diagnostic) : diagnostic.position ∈ typeExpr.places := by
  obtain ⟨demand, among, rfl⟩ := resolve_error failed
  exact demand_placed typeExpr demand among

mutual
theorem Phrase.begins : ∀ {tokens : List Token} {typeExpr : TypeExpr}, Phrase tokens typeExpr →
    Token.Begins tokens typeExpr.places
  | _, _, .named _ => (Token.Begins.none []).cons
  | _, _, .generic _ args _ => args.begins.before.skip.cons
  | _, _, .record _ inside _ => inside.begins.before.cons
  | _, _, .union members _ => members.begins

theorem Several.begins {separator : TokenKind} : ∀ {tokens : List Token} {typeExprs : List TypeExpr},
    Several separator tokens typeExprs → Token.Begins tokens (placesOf typeExprs)
  | _, _, .one read => by
    rw [placesOf, placesOf, List.append_nil]
    exact read.begins
  | _, _, .more read _ others => read.begins.append others.begins.skip

theorem Fields.begins : ∀ {tokens : List Token} {fields : List (String × TypeExpr)}, Fields tokens fields →
    Token.Begins tokens (placesOfFields fields)
  | _, _, .none => .none _
  | _, _, .last _ read => by
    rw [placesOfFields, placesOfFields, List.append_nil]
    exact read.begins.skip.skip
  | _, _, .more _ read _ others => (read.begins.append others.begins.skip).skip.skip
end

end TypedTemplate.TypeExpr
