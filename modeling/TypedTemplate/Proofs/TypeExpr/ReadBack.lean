import TypedTemplate.Proofs.TypeExpr.Members

namespace TypedTemplate.TypeExpr

open Parsed Cursor

def Stops (kind : TokenKind) : Prop := kind ≠ .less ∧ kind ≠ .pipe

def Ends : List Word → Prop
  | [] => False
  | word :: _ => Stops word.1

-- Words that read as a member of a union, and words that read as an annotation.
def ReadsMember (words : List Word) (typeExpr : TypeExpr) : Prop :=
  ∀ (cursor : Cursor) (rest : List Token), cursor.Spells words rest → TokenKind.ahead rest ≠ .less →
    ∃ found next, found.shape = typeExpr.shape ∧ next.rest = rest ∧ (parseMember cursor).Gives found next

def Reads (words : List Word) (typeExpr : TypeExpr) : Prop :=
  ∀ (cursor : Cursor) (rest : List Token), cursor.Spells words rest → Stops (.ahead rest) →
    ∃ found next, found.shape = typeExpr.shape ∧ next.rest = rest ∧ (parse cursor).Gives found next

variable {words words' : List Word} {typeExpr : TypeExpr} {cursor : Cursor} {rest : List Token}

theorem Reads.before (reads : Reads words typeExpr) (spells : cursor.Spells (words ++ words') rest) (ends : Ends words') :
    ∃ found next, found.shape = typeExpr.shape ∧ next.Spells words' rest ∧ (parse cursor).Gives found next := by
  obtain ⟨tokens, same, spells⟩ := spells.append
  have stops : Stops (.ahead (tokens ++ rest)) := by
    match words', ends with
    | (kind, value) :: _, ends => rwa [TokenKind.ahead_word same]
  obtain ⟨found, next, alike, there, given⟩ := reads cursor (tokens ++ rest) spells stops
  exact ⟨found, next, alike, spells_of_rest there same, given⟩

theorem parseMembers_stops (stops : cursor.kind ≠ .pipe) : (parseMembers cursor).Gives [] cursor := by
  rw [parseMembers, if_neg stops]
  exact gives_ok _

theorem ReadsMember.reads (reads : ReadsMember words typeExpr) : Reads words typeExpr := by
  intro cursor rest spells ends
  obtain ⟨found, next, same, there, given⟩ := reads cursor rest spells ends.1
  refine ⟨found, next, same, there, ?_⟩
  have stops : next.kind ≠ .pipe := by
    rw [kind_eq_ahead, there]
    exact ends.2
  rw [parse_eq]
  refine given.andThen fun _ => ?_
  exact (parseMembers_stops stops).upTo fun _ => gives_ok _

theorem named_reads (name : String) (position : Position) : ReadsMember [nameWord name] (named name position) := by
  intro cursor rest spells free
  unfold nameWord at spells
  split at spells
  · rename_i same
    obtain ⟨span, next, taken, spells⟩ := spells.take
    refine ⟨named "?" span.start, next, by rw [same]; rfl, spells_nil.mp spells, ?_⟩
    rw [parseMember]
    exact taken.andThen fun _ => gives_ok _
  split at spells
  · rename_i same
    obtain ⟨span, next, taken, spells⟩ := spells.take
    refine ⟨named "null" span.start, next, by rw [same]; rfl, spells_nil.mp spells, ?_⟩
    rw [parseMember]
    exact taken.andThen fun _ => gives_ok _
  · obtain ⟨span, next, taken, spells⟩ := spells.take
    have plain : next.kind ≠ .less := by
      rw [kind_eq_ahead, spells_nil.mp spells]
      exact free
    refine ⟨named name span.start, next, rfl, spells_nil.mp spells, ?_⟩
    rw [parseMember]
    refine taken.andThen fun _ => ?_
    simp only [if_neg plain]
    exact gives_ok _

theorem ends_arguments (args : List TypeExpr) : Ends (writeAfter TokenKind.comma.word args ++ [TokenKind.greater.word]) := by
  cases args <;> exact ⟨nofun, nofun⟩

theorem arguments_read {args : List TypeExpr} (reads : ∀ arg ∈ args, Reads arg.write arg)
    (spells : cursor.Spells (writeAfter TokenKind.comma.word args ++ [TokenKind.greater.word]) rest) :
    ∃ found next, shapes found = shapes args ∧ next.Spells [TokenKind.greater.word] rest ∧
      (parseArguments cursor).Gives found next := by
  induction args generalizing cursor with
  | nil =>
    have here : cursor.kind = .greater := spells.kind_eq
    refine ⟨[], cursor, rfl, spells, ?_⟩
    rw [parseArguments, if_neg (by simp [here])]
    exact gives_ok _
  | cons arg others ih =>
    rw [List.forall_mem_cons] at reads
    rw [writeAfter, List.cons_append, List.append_assoc] at spells
    have here : cursor.kind = .comma := spells.kind_eq
    obtain ⟨_, middle, passed, spells⟩ := spells.consume
    obtain ⟨found, later, same, spells, given⟩ := reads.1.before spells (ends_arguments others)
    obtain ⟨founds, next, sames, spells, givens⟩ := ih reads.2 spells
    refine ⟨found :: founds, next, by rw [shapes, shapes, same, sames], spells, ?_⟩
    rw [parseArguments, if_pos here]
    refine (passed.andThen fun _ => ?_).loosen
    refine given.after fun _ => ?_
    exact givens.upTo fun _ => gives_ok _

theorem generic_reads {first : TypeExpr} {args : List TypeExpr} (reads : Reads first.write first)
    (others : ∀ arg ∈ args, Reads arg.write arg) (name : String) (position : Position) :
    ReadsMember (generic name (first :: args) position).write (generic name (first :: args) position) := by
  intro cursor rest spells _
  rw [write] at spells
  obtain ⟨span, next, taken, spells⟩ := spells.take
  have opened : next.kind = .less := spells.kind_eq
  obtain ⟨_, inside, passed, spells⟩ := spells.consume
  obtain ⟨found, later, same, spells, given⟩ := reads.before spells (ends_arguments args)
  obtain ⟨founds, last, sames, spells, givens⟩ := arguments_read others spells
  obtain ⟨_, done, closed, spells⟩ := spells.consumeFor "expected `>` to close type arguments"
  refine ⟨generic name (found :: founds) span.start, done, by rw [shape, shape, shapes, shapes, same, sames],
    spells_nil.mp spells, ?_⟩
  rw [parseMember]
  refine taken.andThen fun _ => ?_
  simp only [if_pos opened]
  refine passed.after fun _ => given.after fun _ => ?_
  refine givens.upTo fun _ => ?_
  exact closed.after fun _ => gives_ok _

theorem ends_fields (fields : List (String × TypeExpr)) : Ends (writeFields fields ++ [TokenKind.closeBracket.word]) := by
  cases fields <;> exact ⟨nofun, nofun⟩

theorem fields_read {fields : List (String × TypeExpr)} (others : ∀ field ∈ fields, Reads field.2.write field.2)
    (reads : Reads words typeExpr) (name : String) (spells : cursor.Spells ((.identifier, name) :: TokenKind.colon.word ::
      (words ++ (writeFields fields ++ [TokenKind.closeBracket.word]))) rest) :
    ∃ found next, fieldShapes found = fieldShapes ((name, typeExpr) :: fields) ∧
      next.Spells [TokenKind.closeBracket.word] rest ∧ (parseFields cursor).Gives found next := by
  induction fields generalizing cursor name words typeExpr with
  | nil =>
    have here : cursor.kind = .identifier := spells.kind_eq
    obtain ⟨_, afterName, named, spells⟩ := spells.consumeFor "expected record field name"
    obtain ⟨_, start, passed, spells⟩ := spells.consume
    obtain ⟨found, later, same, spells, given⟩ := reads.before spells (ends_fields [])
    have closing : later.kind = .closeBracket := spells.kind_eq
    refine ⟨[(name, found)], later, by simp only [fieldShapes, same], spells, ?_⟩
    rw [parseFields, if_neg (by simp [here])]
    refine (named.andThen fun _ => ?_).loosen
    refine passed.after fun _ => given.after fun _ => ?_
    rw [if_neg (by simp [closing])]
    exact gives_ok _
  | cons field rest ih =>
    rw [List.forall_mem_cons] at others
    have here : cursor.kind = .identifier := spells.kind_eq
    obtain ⟨_, afterName, named, spells⟩ := spells.consumeFor "expected record field name"
    obtain ⟨_, start, passed, spells⟩ := spells.consume
    obtain ⟨found, later, same, spells, given⟩ := reads.before spells (ends_fields _)
    rw [writeFields, List.cons_append, List.cons_append, List.cons_append, List.append_assoc] at spells
    have comma : later.kind = .comma := spells.kind_eq
    obtain ⟨_, more, passed', spells⟩ := spells.consume
    obtain ⟨founds, next, sames, spells, givens⟩ := ih others.2 others.1 field.1 spells
    refine ⟨(name, found) :: founds, next, by rw [fieldShapes, fieldShapes, same, sames], spells, ?_⟩
    rw [parseFields, if_neg (by simp [here])]
    refine (named.andThen fun _ => ?_).loosen
    refine passed.after fun _ => given.after fun _ => ?_
    rw [if_pos comma]
    refine passed'.after fun _ => ?_
    exact givens.upTo fun _ => gives_ok _

theorem record_reads {fields : List (String × TypeExpr)} (reads : ∀ field ∈ fields, Reads field.2.write field.2)
    (position : Position) : ReadsMember (record fields position).write (record fields position) := by
  intro cursor rest spells _
  cases fields with
  | nil =>
    rw [write] at spells
    obtain ⟨span, next, taken, spells⟩ := spells.take
    have here : next.kind = .closeBracket := spells.kind_eq
    obtain ⟨_, done, closed, spells⟩ := spells.consume
    have none : (parseFields next).Gives [] next := by
      rw [parseFields, if_pos here]
      exact gives_ok _
    refine ⟨record [] span.start, done, rfl, spells_nil.mp spells, ?_⟩
    rw [parseMember]
    refine taken.andThen fun _ => none.upTo fun _ => ?_
    exact closed.after fun _ => gives_ok _
  | cons field others =>
    rw [List.forall_mem_cons] at reads
    rw [write] at spells
    obtain ⟨span, next, taken, spells⟩ := spells.take
    obtain ⟨founds, last, sames, spells, givens⟩ := fields_read reads.2 reads.1 field.1 spells
    obtain ⟨_, done, closed, spells⟩ := spells.consume
    refine ⟨record founds span.start, done, by rw [shape, shape, sames], spells_nil.mp spells, ?_⟩
    rw [parseMember]
    refine taken.andThen fun _ => ?_
    refine givens.upTo fun _ => ?_
    exact closed.after fun _ => gives_ok _

theorem free_of_members {members : List TypeExpr} {tokens : List Token}
    (same : tokens.map Token.word = writeAfter TokenKind.pipe.word members) (stops : Stops (.ahead rest)) :
    TokenKind.ahead (tokens ++ rest) ≠ .less := by
  cases members with
  | nil =>
    rw [writeAfter, List.map_eq_nil_iff] at same
    subst same
    exact stops.1
  | cons member others =>
    rw [TokenKind.ahead_word same]
    exact nofun

theorem members_read {members : List TypeExpr} (reads : ∀ member ∈ members, ReadsMember member.write member)
    (spells : cursor.Spells (writeAfter TokenKind.pipe.word members) rest) (stops : Stops (.ahead rest)) :
    ∃ found next, shapes found = shapes members ∧ next.rest = rest ∧ (parseMembers cursor).Gives found next := by
  induction members generalizing cursor with
  | nil =>
    have there : cursor.rest = rest := spells_nil.mp spells
    refine ⟨[], cursor, rfl, there, parseMembers_stops ?_⟩
    rw [kind_eq_ahead, there]
    exact stops.2
  | cons member others ih =>
    rw [List.forall_mem_cons] at reads
    rw [writeAfter] at spells
    have here : cursor.kind = .pipe := spells.kind_eq
    obtain ⟨_, middle, passed, spells⟩ := spells.consume
    obtain ⟨tokens, same, spells⟩ := spells.append
    obtain ⟨found, later, alike, there, given⟩ := reads.1 middle _ spells (free_of_members same stops)
    obtain ⟨founds, next, sames, there', givens⟩ := ih reads.2 (spells_of_rest there same)
    refine ⟨found :: founds, next, by rw [shapes, shapes, alike, sames], there', ?_⟩
    rw [parseMembers, if_pos here]
    refine (passed.andThen fun _ => ?_).loosen
    refine given.after fun _ => ?_
    exact givens.upTo fun _ => gives_ok _

theorem union_reads {first second : TypeExpr} {members : List TypeExpr} (reads : ReadsMember first.write first)
    (others : ∀ member ∈ second :: members, ReadsMember member.write member) :
    Reads (union (first :: second :: members)).write (union (first :: second :: members)) := by
  intro cursor rest spells stops
  rw [write] at spells
  obtain ⟨tokens, same, spells⟩ := spells.append
  obtain ⟨found, next, alike, there, given⟩ := reads cursor _ spells (free_of_members same stops)
  obtain ⟨founds, done, sames, there', givens⟩ := members_read others (spells_of_rest there same) stops
  cases founds with
  | nil => cases sames
  | cons found' founds =>
    refine ⟨union (found :: found' :: founds), done, ?_, there', ?_⟩
    · show union (found.shape :: shapes (found' :: founds)) = union (first.shape :: shapes (second :: members))
      rw [alike, sames]
    · rw [parse_eq]
      refine given.andThen fun _ => ?_
      exact givens.upTo fun _ => gives_ok _

def ReadsBack (typeExpr : TypeExpr) : Prop :=
  Reads typeExpr.write typeExpr ∧ (typeExpr.isUnion = false → ReadsMember typeExpr.write typeExpr)

theorem ReadsBack.of_member (reads : ReadsMember typeExpr.write typeExpr) : typeExpr.ReadsBack :=
  ⟨reads.reads, fun _ => reads⟩

mutual
theorem reads_back : ∀ typeExpr : TypeExpr, typeExpr.Proper → typeExpr.ReadsBack
  | named name position, _ => .of_member (named_reads name position)
  | generic name [] position, proper => absurd rfl proper.1
  | generic name (first :: rest) position, proper => by
    obtain ⟨back, backs⟩ := List.forall_mem_cons.mp (reads_back_all (first :: rest) proper.2)
    exact .of_member (generic_reads back.1 (fun arg listed => (backs arg listed).1) name position)
  | record fields position, proper =>
    .of_member (record_reads (fun field listed => (reads_back_fields fields proper field listed).1) position)
  | union members, ⟨several, flat, proper⟩ => by
    have backs := reads_back_all members proper
    refine ⟨?_, nofun⟩
    match members, several, flat, backs with
    | first :: second :: rest, _, flat, backs =>
      have reads : ∀ member ∈ first :: second :: rest, ReadsMember member.write member :=
        fun member listed => (backs member listed).2 (flat member listed)
      rw [List.forall_mem_cons] at reads
      exact union_reads reads.1 reads.2

theorem reads_back_all : ∀ typeExprs : List TypeExpr, AllProper typeExprs → ∀ typeExpr ∈ typeExprs, typeExpr.ReadsBack
  | [], _ => nofun
  | typeExpr :: rest, proper =>
    List.forall_mem_cons.mpr ⟨reads_back typeExpr proper.1, reads_back_all rest proper.2⟩

theorem reads_back_fields : ∀ fields : List (String × TypeExpr), FieldsProper fields → ∀ field ∈ fields, field.2.ReadsBack
  | [], _ => nofun
  | (_, type) :: rest, proper =>
    List.forall_mem_cons.mpr ⟨reads_back type proper.1, reads_back_fields rest proper.2⟩
end

end TypedTemplate.TypeExpr
