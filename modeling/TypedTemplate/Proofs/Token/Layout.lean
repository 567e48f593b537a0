import Mathlib.Logic.Relation
import TypedTemplate.Proofs.Token.Append

namespace TypedTemplate.Token

open Source (byteLength slice)
open Text (isBlank)

variable {source file : String} {earlier later tokens : List Token} {token next : Token} {first last : Scanner}
  {before space after : List Char}

-- A reading that finds some tokens and then others stands between them when the last of the first
-- ones has just been read.
theorem Scans.split (scans : Scans file first (earlier ++ later) last) : ∃ middle, Scans file first earlier middle ∧
    Scans file middle later last ∧ ∀ token ∈ earlier.getLast?, token.span.stop = .behind middle.offset file := by
  generalize joined : earlier ++ later = tokens at scans
  induction scans generalizing earlier with
  | stay =>
    obtain ⟨rfl, rfl⟩ := List.append_eq_nil_iff.mp joined
    exact ⟨_, .stay, .stay, nofun⟩
  | blank found goesOn ih =>
    cases earlier with
    | nil =>
      subst joined
      exact ⟨_, .stay, .blank found goesOn, nofun⟩
    | cons token others =>
      obtain ⟨middle, front, back, stops⟩ := ih joined
      exact ⟨middle, .blank found front, back, stops⟩
  | token found goesOn ih =>
    cases earlier with
    | nil =>
      subst joined
      exact ⟨_, .stay, .token found goesOn, nofun⟩
    | cons token others =>
      obtain ⟨rfl, joined'⟩ := List.cons.inj joined
      cases others with
      | nil =>
        subst joined'
        exact ⟨_, .token found .stay, goesOn, fun token only => Option.some.inj only ▸ rfl⟩
      | cons second others =>
        obtain ⟨middle, front, back, stops⟩ := ih joined'
        exact ⟨middle, .token found front, back, stops⟩

-- White space put into a source inside a tag, behind a token of the tag and whatever white space
-- there is behind that one.
inductive Spaces (file : String) : String → String → Prop
  | put {tokens : List Token} {before gap space after : List Char}
    (upTo : Scans file (.start (.ofList (before ++ (gap ++ after)))) tokens ⟨.tag, byteLength before, gap ++ after⟩)
    (passed : ∀ c ∈ gap, isBlank c) (some : space ≠ []) (blank : ∀ c ∈ space, isBlank c) :
    Spaces file (.ofList (before ++ (gap ++ after))) (.ofList (before ++ (gap ++ (space ++ after))))

theorem gap_blank (walk : Walk source file .text 0 (earlier ++ token :: next :: later)) {front gap : List Char}
    (whole : source.toList = front ++ (gap ++ after)) (reached : token.stop = byteLength front)
    (ahead : byteLength (front ++ gap) ≤ next.start) : ∀ c ∈ gap, isBlank c := by
  have here : Walk source file (regionAfter .text (earlier ++ [token])) token.stop (next :: later) := by
    rw [List.append_cons] at walk
    have goesOn := walk.leadsTo
    rwa [reach, List.foldl_append] at goesOn
  obtain ⟨upTo, rest, whole', starts⟩ := Source.exists_of_boundary here.placed.boundaries.1
  have same : (front ++ gap) ++ after = upTo ++ rest := by rw [← whole', whole, List.append_assoc]
  obtain ⟨others, rfl⟩ := Source.prefix_of_byteLength_le same (by rwa [← starts])
  have piece : slice source token.stop next.start = .ofList (gap ++ others) := by
    rw [starts, reached, List.append_assoc, Source.byteLength_append front]
    refine @Source.slice_eq source front (gap ++ others) rest ?_
    rw [whole', List.append_assoc, List.append_assoc, List.append_assoc]
  intro c among
  refine here.passed.blank c ?_
  rw [piece, String.toList_ofList]
  exact List.mem_append_left _ among

-- White space put between two tokens of a tag, anywhere from where the one stops up to where the
-- other starts.
theorem Spaces.between (small : byteLength (before ++ after) < 2 ^ 32)
    (read : tokenize (.ofList (before ++ after)) file = .ok (earlier ++ token :: next :: later))
    (inTag : Opened (earlier ++ [token])) (behind : token.stop ≤ byteLength before)
    (ahead : byteLength before ≤ next.start) (some : space ≠ []) (blank : ∀ c ∈ space, isBlank c) :
    Spaces file (.ofList (before ++ after)) (.ofList (before ++ (space ++ after))) := by
  rw [← String.toList_ofList (l := before ++ after), Source.byteLength_toList] at small
  have walk := walk_of_tokenize small read
  obtain ⟨stream, region, scans, same⟩ := scans_of_ok read
  obtain ⟨more, ending, ends⟩ : ∃ more ending, next :: later = more ++ [ending] :=
    ⟨_, _, (List.dropLast_append_getLast (List.cons_ne_nil next later)).symm⟩
  rw [List.append_cons, ends, ← List.append_assoc] at same
  obtain ⟨rfl, last⟩ := List.append_inj' same rfl
  obtain ⟨⟨region', stop, rest⟩, upTo, _, stops⟩ := scans.split
  obtain rfl : region' = .tag := upTo.regionAfter_eq.trans (regionAfter_of_opened .text inTag)
  obtain ⟨front, split, counted, -⟩ := upTo.cut
  dsimp only at split counted
  rw [Nat.zero_add] at counted
  subst counted
  have ends : token.stop = byteLength front := by
    rw [stop, stops token List.getLast?_concat]
    exact offset_behind_split small split
  rw [String.toList_ofList] at split
  obtain ⟨gap, rfl⟩ := Source.prefix_of_byteLength_le split.symm (ends ▸ behind)
  have passed := gap_blank walk (String.toList_ofList.trans (List.append_assoc ..)) ends ahead
  rw [List.append_assoc] at split upTo ⊢
  rw [List.append_assoc]
  obtain rfl : rest = gap ++ after := List.append_cancel_left split.symm
  exact .put upTo passed some blank

theorem Spaces.words {source' : String} (spaces : Spaces file source source') (read : tokenize source file = .ok tokens) :
    ∃ tokens', tokenize source' file = .ok tokens' ∧ tokens'.map word = tokens.map word := by
  obtain @⟨earlier, before, gap, space, after, upTo, passed, some, blank⟩ := spaces
  have spaced : ∀ c ∈ gap ++ space, isBlank c := List.forall_mem_append.mpr ⟨passed, blank⟩
  have seam : Seam .tag earlier ((gap ++ space) ++ after) := by
    intro c first
    obtain ⟨d, others, here⟩ := List.exists_cons_of_ne_nil (List.append_ne_nil_of_right_ne_nil gap some)
    rw [here] at first spaced
    cases first
    exact spaced c List.mem_cons_self
  have moved : ofChars file .tag (byteLength before) ((gap ++ space) ++ after) =
      shiftedOutcome (byteLength space) (ofChars file .tag (byteLength before) (gap ++ after)) := by
    rw [ofChars_spaces spaced, ofChars_spaces passed, ← ofChars_shifted, Source.byteLength_append]
    congr 1
    omega
  obtain ⟨front, split, -, alone⟩ := upTo.cut
  obtain rfl : front = before := List.append_cancel_right (split.symm.trans String.toList_ofList)
  have given : tokenize _ file = _ := upTo.reading
  have whole := alone.followed rfl seam
  dsimp only [Scanner.start] at given whole
  rw [read] at given
  cases later : ofChars file .tag (byteLength front) (gap ++ after) with
  | error diagnostic =>
    rw [later] at given
    cases given
  | ok others =>
    rw [later] at given moved
    cases given
    refine ⟨earlier ++ others.map (shifted (byteLength space)), ?_, ?_⟩
    · rw [tokenize, String.toList_ofList, ← List.append_assoc gap, whole, moved]
      rfl
    · simp only [List.map_append, List.map_map]
      rfl

theorem tokenize_spaced {source' : String} (spaced : Relation.ReflTransGen (Spaces file) source source')
    (read : tokenize source file = .ok tokens) :
    ∃ tokens', tokenize source' file = .ok tokens' ∧ tokens'.map word = tokens.map word := by
  induction spaced with
  | refl => exact ⟨tokens, read, rfl⟩
  | tail _ more ih =>
    obtain ⟨middle, read', same⟩ := ih
    obtain ⟨tokens', read'', same'⟩ := more.words read'
    exact ⟨tokens', read'', same'.trans same⟩

-- `{@param ?1e+$a}`, with a tab more before the `?`, and then with a newline behind the `1`
def tightSource : List Char := ['{', '@', 'p', 'a', 'r', 'a', 'm', ' '] ++ ['?', '1', 'e', '+', '$', 'a', '}']

def tabbedSource : List Char := ['{', '@', 'p', 'a', 'r', 'a', 'm', ' '] ++ (['\t'] ++ ['?', '1', 'e', '+', '$', 'a', '}'])

def looseSource : List Char :=
  ['{', '@', 'p', 'a', 'r', 'a', 'm', ' ', '\t', '?', '1'] ++ (['\n'] ++ ['e', '+', '$', 'a', '}'])

def tokensOf (source : List Char) : List Token := (tokenize (.ofList source) defaultFile).toOption.getD []

def nthToken (source : List Char) (place : Nat) : Token := (tokensOf source).getD place (atEnd (.behind 0 defaultFile))

theorem tightSource_spaces : Spaces defaultFile (.ofList tightSource) (.ofList tabbedSource) :=
  @Spaces.between defaultFile ((tokensOf tightSource).take 1) ((tokensOf tightSource).drop 3) (nthToken tightSource 1)
    (nthToken tightSource 2) _ _ _ (by decide +kernel) (by decide +kernel) (opened_of_regionAfter (by decide +kernel))
    (by decide +kernel) (by decide +kernel) (by decide) (List.forall_mem_singleton.mpr rfl)

theorem tabbedSource_spaces : Spaces defaultFile (.ofList tabbedSource) (.ofList looseSource) :=
  @Spaces.between defaultFile ((tokensOf tabbedSource).take 3) ((tokensOf tabbedSource).drop 5) (nthToken tabbedSource 3)
    (nthToken tabbedSource 4) ['{', '@', 'p', 'a', 'r', 'a', 'm', ' ', '\t', '?', '1'] _ ['e', '+', '$', 'a', '}']
    (by decide +kernel) (by decide +kernel) (opened_of_regionAfter (by decide +kernel)) (by decide +kernel)
    (by decide +kernel) (by decide) (List.forall_mem_singleton.mpr rfl)

theorem tokenize_spaced_tightSource :
    Relation.ReflTransGen (Spaces defaultFile) (.ofList tightSource) (.ofList looseSource) ∧
      tokenize (.ofList tightSource) defaultFile = .ok (tokensOf tightSource) ∧
      (tokensOf tightSource).map word = [(.openCurly, "\x7b"), (.param, "@param"), (.question, "?"), (.number, "1"),
        (.identifier, "e"), (.plus, "+"), (.variableName, "a"), (.closeCurly, "\x7d"), (.eof, "EOF")] ∧
      ∃ tokens, tokenize (.ofList looseSource) defaultFile = .ok tokens ∧ tokens.map word = (tokensOf tightSource).map word := by
  have spaced : Relation.ReflTransGen (Spaces defaultFile) (.ofList tightSource) (.ofList looseSource) :=
    .tail (.single tightSource_spaces) tabbedSource_spaces
  have read : tokenize (.ofList tightSource) defaultFile = .ok (tokensOf tightSource) := by decide +kernel
  exact ⟨spaced, read, by decide +kernel, tokenize_spaced spaced read⟩

end TypedTemplate.Token
