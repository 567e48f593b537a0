import TypedTemplate.Proofs.Token.Cover
import TypedTemplate.Proofs.Token.Passage

namespace TypedTemplate

namespace Span

structure Among (span : Span) (tokens : List Token) : Prop where
  starts : ∃ token ∈ tokens, span.start = token.span.start
  stops : ∃ token ∈ tokens, span.stop = token.span.stop
  extended : span.start.offset < span.stop.offset

def Apart (spans : List Span) : Prop := spans.Pairwise fun span later => span.stop.offset ≤ later.start.offset

structure Encloses (whole : Span) (parts : List Span) : Prop where
  within : ∀ part ∈ parts, whole.start.offset ≤ part.start.offset ∧ part.stop.offset ≤ whole.stop.offset
  apart : Apart parts

theorem Among.mono {span : Span} {tokens tokens' : List Token} (among : span.Among tokens) (more : tokens ⊆ tokens') :
    span.Among tokens' := by
  obtain ⟨⟨first, isFirst, starts⟩, ⟨last, isLast, stops⟩, extended⟩ := among
  exact ⟨⟨first, more isFirst, starts⟩, ⟨last, more isLast, stops⟩, extended⟩

theorem Encloses.none (whole : Span) : whole.Encloses [] := ⟨nofun, .nil⟩

end Span

namespace Token

structure InOrder (tokens : List Token) : Prop where
  extended : ∀ token ∈ tokens, token.start < token.stop
  apart : tokens.Pairwise fun token later => token.stop ≤ later.start

-- Spans made of the tokens, one after another.
structure Spread (tokens : List Token) (spans : List Span) : Prop where
  among : ∀ span ∈ spans, span.Among tokens
  apart : Span.Apart spans

variable {tokens tokens' : List Token} {token : Token} {spans spans' middle parts : List Span} {first last span : Span}

theorem InOrder.sublist (ordered : InOrder tokens') (part : tokens.Sublist tokens') : InOrder tokens :=
  ⟨fun token among => ordered.extended token (part.subset among), ordered.apart.sublist part⟩

theorem InOrder.left (ordered : InOrder (tokens ++ tokens')) : InOrder tokens :=
  ordered.sublist (List.sublist_append_left _ _)

theorem InOrder.right (ordered : InOrder (tokens ++ tokens')) : InOrder tokens' :=
  ordered.sublist (List.sublist_append_right _ _)

theorem InOrder.tail (ordered : InOrder (token :: tokens)) : InOrder tokens :=
  ordered.sublist (List.sublist_cons_self _ _)

theorem InOrder.among (ordered : InOrder [token]) : token.span.Among [token] :=
  ⟨⟨token, List.mem_singleton_self _, rfl⟩, ⟨token, List.mem_singleton_self _, rfl⟩,
    ordered.extended token (List.mem_singleton_self _)⟩

theorem Walk.inOrder {source file : String} {region : Region} {reached : Nat}
    (walk : Walk source file region reached tokens) : InOrder (beforeEnd tokens) := by
  refine ⟨fun token among => ?_, walk.ordered.sublist (List.takeWhile_sublist _)⟩
  have inner : token.kind ≠ .eof := by simpa using List.mem_takeWhile_imp among
  have listed := (List.takeWhile_sublist _).subset among
  clear among
  induction walk with
  | ending => exact absurd (congrArg Token.kind (List.mem_singleton.mp listed)) inner
  | token passed placed extended written goesOn ih =>
    rcases List.mem_cons.mp listed with rfl | later
    · exact extended
    · exact ih later

namespace Spread

theorem none (tokens : List Token) : Spread tokens [] := ⟨nofun, .nil⟩

theorem single (among : span.Among tokens) : Spread tokens [span] :=
  ⟨by simpa using among, List.pairwise_singleton _ _⟩

theorem mono (spread : Spread tokens spans) (more : tokens ⊆ tokens') : Spread tokens' spans :=
  ⟨fun span listed => (spread.among span listed).mono more, spread.apart⟩

theorem append (ordered : InOrder (tokens ++ tokens')) (earlier : Spread tokens spans) (later : Spread tokens' spans') :
    Spread (tokens ++ tokens') (spans ++ spans') where
  among := by
    intro span listed
    rcases List.mem_append.mp listed with before | after
    · exact (earlier.among span before).mono (List.subset_append_left _ _)
    · exact (later.among span after).mono (List.subset_append_right _ _)
  apart := by
    refine List.pairwise_append.mpr ⟨earlier.apart, later.apart, fun span before span' after => ?_⟩
    obtain ⟨token, among, stops⟩ := (earlier.among span before).stops
    obtain ⟨token', among', starts⟩ := (later.among span' after).starts
    rw [stops, starts]
    exact (List.pairwise_append.mp ordered.apart).2.2 token among token' among'

theorem cons (ordered : InOrder (token :: tokens)) (spread : Spread tokens spans) :
    Spread (token :: tokens) (token.span :: spans) := by
  change InOrder ([token] ++ tokens) at ordered
  exact append ordered (single ordered.left.among) spread

theorem precedes (spread : Spread tokens (spans ++ spans')) (before : first ∈ spans) (after : last ∈ spans') :
    first.start.offset ≤ last.start.offset ∧ first.stop.offset ≤ last.stop.offset := by
  have apart := (List.pairwise_append.mp spread.apart).2.2 first before last after
  have extended := (spread.among first (List.mem_append_left _ before)).extended
  have extended' := (spread.among last (List.mem_append_right _ after)).extended
  omega

theorem encloses (spread : Spread tokens (first :: (middle ++ [last]))) (listed : parts.Sublist (first :: (middle ++ [last]))) :
    Span.Encloses ⟨first.start, last.stop⟩ parts where
  within := by
    intro part among
    constructor
    · rcases List.mem_cons.mp (listed.subset among) with rfl | later
      · exact Nat.le_refl _
      · exact (@precedes tokens [first] (middle ++ [last]) _ _ spread (List.mem_singleton_self _) later).1
    · rw [← List.cons_append] at spread listed
      rcases List.mem_append.mp (listed.subset among) with earlier | isLast
      · exact (spread.precedes earlier (List.mem_singleton_self _)).2
      · rw [List.mem_singleton.mp isLast]
  apart := spread.apart.sublist listed

theorem whole (spread : Spread tokens (first :: (middle ++ [last]))) : Span.Among ⟨first.start, last.stop⟩ tokens := by
  have isFirst := spread.among first List.mem_cons_self
  have isLast := spread.among last (List.mem_cons_of_mem _ (List.mem_append_right _ (List.mem_singleton_self _)))
  have within := (spread.encloses (List.Sublist.refl _)).within first List.mem_cons_self
  exact ⟨isFirst.starts, isLast.stops, Nat.lt_of_lt_of_le isFirst.extended within.2⟩

end Spread
end Token
end TypedTemplate
