import Mathlib.Data.List.Induction
import TypedTemplate.Proofs.Source.Slice
import TypedTemplate.Proofs.Token.Written

namespace TypedTemplate

theorem Position.offset_behind_of_lt {bytes : Nat} (small : bytes < 2 ^ 32) (file : String) :
    (behind bytes file).offset = bytes := Nat.mod_eq_of_lt small

namespace Token

open Source (slice Boundary byteLength)

structure Passed (source : String) (region : Region) (start stop : Nat) : Prop where
  le : start ≤ stop
  blank : ∀ c ∈ (slice source start stop).toList, Text.isBlank c
  inside : slice source start stop ≠ "" → region = .tag

def start (token : Token) : Nat := token.span.start.offset
def stop (token : Token) : Nat := token.span.stop.offset

def piece (source : String) (token : Token) : String := slice source token.start token.stop

structure Placed (source file : String) (token : Token) : Prop where
  files : token.span.start.file = file ∧ token.span.stop.file = file
  boundaries : Boundary source token.start ∧ Boundary source token.stop

-- From an offset on the tokens of a source, up to its end, if the source is not too long for
-- its bytes to be counted.
inductive Walk (source file : String) : Region → Nat → List Token → Prop
  | ending {region : Region} {reached : Nat} (small : source.utf8ByteSize < 2 ^ 32)
    (passed : Passed source region reached source.utf8ByteSize) :
    Walk source file region reached [atEnd (.behind source.utf8ByteSize file)]
  | token {region : Region} {reached : Nat} {token : Token} {rest : List Token}
    (passed : Passed source region reached token.start) (placed : Placed source file token)
    (extended : token.start < token.stop)
    (written : Written region token.kind token.value (token.piece source).toList)
    (later : Walk source file (region.after token.kind) token.stop rest) : Walk source file region reached (token :: rest)

section reading

variable {source file : String} {region : Region} {before gap rest : List Char}

theorem offset_behind_split {file : String} {after : List Char} (small : source.utf8ByteSize < 2 ^ 32)
    (whole : source.toList = before ++ after) : (Position.behind (byteLength before) file).offset = byteLength before :=
  Position.offset_behind_of_lt (Nat.lt_of_le_of_lt (Source.le_of_boundary (Source.boundary_of_append whole)) small) file

theorem start_atEnd (small : source.utf8ByteSize < 2 ^ 32) (file : String) :
    (atEnd (.behind source.utf8ByteSize file)).start = source.utf8ByteSize := Position.offset_behind_of_lt small file

theorem passed_gap (whole : source.toList = before ++ (gap ++ rest)) (blank : ∀ c ∈ gap, Text.isBlank c)
    (inside : gap ≠ [] → region = .tag) :
    Passed source region (byteLength before) (byteLength before + byteLength gap) := by
  have same := Source.slice_eq whole
  refine ⟨Nat.le_add_right _ _, ?_, fun any => inside ?_⟩
  · rwa [same, String.toList_ofList]
  · rintro rfl
    exact any same

theorem drop_eq {text later whole : List Char} (split : text ++ later = whole) : whole.drop text.length = later := by
  rw [← split, List.drop_left]

structure Standing (source file : String) (region : Region) (reached : Nat) (token : Token) : Prop where
  passed : Passed source region reached token.start
  placed : Placed source file token
  extended : token.start < token.stop
  written : Written region token.kind token.value (token.piece source).toList

theorem standing_of_split {kind : TokenKind} {text later : List Char} {offset stop : Nat}
    (small : source.utf8ByteSize < 2 ^ 32) (whole : source.toList = before ++ (gap ++ (text ++ later))) (reached : offset = byteLength before + byteLength gap)
    (stops : stop = offset + byteLength text) (blank : ∀ c ∈ gap, Text.isBlank c) (inside : gap ≠ [] → region = .tag)
    (any : text ≠ []) (written : Written region kind (Lexeme.value kind text) text) :
    Standing source file region (byteLength before) ⟨kind, Lexeme.value kind text, ⟨.behind offset file, .behind stop file⟩⟩ := by
  have start : offset = byteLength (before ++ gap) := by rw [Source.byteLength_append, reached]
  have here : source.toList = (before ++ gap) ++ (text ++ later) := by rw [whole, List.append_assoc]
  have past : source.toList = ((before ++ gap) ++ text) ++ later := by rw [here, List.append_assoc _ text]
  have starts : (Position.behind offset file).offset = offset := by
    rw [start]
    exact offset_behind_split small here
  have ends : (Position.behind stop file).offset = stop := by
    rw [stops, start, ← Source.byteLength_append]
    exact offset_behind_split small past
  have piece_eq : slice source offset stop = .ofList text := by
    rw [stops, start]
    exact Source.slice_eq here
  refine ⟨?_, ⟨⟨rfl, rfl⟩, ?_, ?_⟩, ?_, ?_⟩
  · show Passed source region _ (Position.behind offset file).offset
    rw [starts, reached]
    exact passed_gap whole blank inside
  · show Boundary source (Position.behind offset file).offset
    rw [starts, start]
    exact Source.boundary_of_append here
  · show Boundary source (Position.behind stop file).offset
    rw [ends, stops, start, ← Source.byteLength_append]
    exact Source.boundary_of_append past
  · show (Position.behind offset file).offset < (Position.behind stop file).offset
    rw [starts, ends, stops]
    exact Nat.lt_add_of_pos_right (Source.byteLength_pos any)
  · show Written region kind _ (slice source (Position.behind offset file).offset (Position.behind stop file).offset).toList
    rw [starts, ends, piece_eq, String.toList_ofList]
    exact written

theorem Standing.walk {token : Token} {reached : Nat} {others : List Token}
    (standing : Standing source file region reached token)
    (goesOn : Walk source file (region.after token.kind) token.stop others) :
    Walk source file region reached (token :: others) :=
  .token standing.passed standing.placed standing.extended standing.written goesOn

-- Induction on the reading of the tokens: `gap` has been passed over since the last token.
theorem ofChars_walk {offset : Nat} {tokens : List Token} (small : source.utf8ByteSize < 2 ^ 32) (read : ofChars file region offset rest = .ok tokens)
    (whole : source.toList = before ++ (gap ++ rest)) (reached : offset = byteLength before + byteLength gap)
    (blank : ∀ c ∈ gap, Text.isBlank c) (inside : gap ≠ [] → region = .tag) :
    Walk source file region (byteLength before) tokens := by
  fun_induction ofChars file region offset rest generalizing tokens before gap with
  | case1 region offset =>
    cases read
    have ended : offset = source.utf8ByteSize := by
      rw [reached, ← Source.byteLength_toList, whole, List.append_nil, Source.byteLength_append]
    subst ended
    refine .ending small ?_
    rw [reached]
    exact passed_gap whole blank inside
  | case2 => cases read
  | case3 region offset c rest lexeme found stop remaining =>
    rename_i blanks ih
    obtain ⟨reads, later, split⟩ := Lexeme.first?_reads found
    have left : remaining = later := drop_eq split
    cases reads with
    | token written => cases blanks
    | @blanks text inTag each =>
      refine @ih before (gap ++ text) tokens read ?_ ?_ ?_ fun _ => inTag
      · rw [whole, ← split, left, List.append_assoc]
      · rw [Source.byteLength_append, ← Nat.add_assoc, ← reached]
      · exact fun d among => (List.mem_append.mp among).elim (blank d) (each d)
  | case4 region offset c rest lexeme found stop remaining kind =>
    rename_i named ih
    obtain ⟨reads, later, split⟩ := Lexeme.first?_reads found
    have left : remaining = later := drop_eq split
    cases reads with
    | blanks inTag each => cases named
    | @token kind text written =>
      cases named
      cases more : ofChars file (region.after kind) stop remaining with
      | error diagnostic =>
        rw [more] at read
        cases read
      | ok others =>
        rw [more] at read
        cases read
        have past : source.toList = (before ++ (gap ++ text)) ++ later := by
          rw [whole, ← split, List.append_assoc, List.append_assoc]
        have stops : stop = byteLength (before ++ (gap ++ text)) := by
          rw [Source.byteLength_append, Source.byteLength_append, ← Nat.add_assoc, ← reached]
        have goesOn := @ih (before ++ (gap ++ text)) [] others more (left ▸ past) stops nofun nofun
        rw [← offset_behind_split small past, ← stops] at goesOn
        exact (standing_of_split small (split ▸ whole) reached rfl blank inside (Lexeme.text_ne_nil found) written).walk goesOn

end reading

section covering

def regionAfter (region : Region) (earlier : List Token) : Region :=
  earlier.foldl (fun region token => region.after token.kind) region

def reach (reached : Nat) (earlier : List Token) : Nat := earlier.foldl (fun _ token => token.stop) reached

def Opened (earlier : List Token) : Prop := ∃ front opening back,
  earlier = front ++ opening :: back ∧ opening.kind.opensTag ∧ ∀ token ∈ back, token.kind.closesTag = false

def retold (source : String) (reached : Nat) : List Token → String
  | [] => ""
  | token :: later => slice source reached token.start ++ (token.piece source ++ retold source token.stop later)

-- How a token of a source stands among the others. All but the last of them have a piece
-- of the source that they alone can have been read from.
structure Fits (source file : String) (earlier : List Token) (token : Token) (later : List Token) : Prop where
  placed : Placed source file token
  apart : reach 0 earlier ≤ token.start
  blank : ∀ c ∈ (slice source (reach 0 earlier) token.start).toList, Text.isBlank c
  inside : slice source (reach 0 earlier) token.start ≠ "" → Opened earlier
  extended : later ≠ [] → token.start < token.stop
  settled : later ≠ [] → ∀ kind value, Written (regionAfter .text earlier) kind value (token.piece source).toList ↔
    kind = token.kind ∧ value = token.value

structure Cover (source file : String) (tokens : List Token) : Prop where
  ending : tokens.getLast? = some (atEnd (.behind source.utf8ByteSize file))
  fits : ∀ earlier token later, tokens = earlier ++ token :: later → Fits source file earlier token later
  ordered : tokens.Pairwise fun token later => token.stop ≤ later.start
  whole : retold source 0 tokens = source

theorem opened_of_regionAfter {earlier : List Token} (inTag : regionAfter .text earlier = .tag) : Opened earlier := by
  induction earlier using List.reverseRecOn with
  | nil => cases inTag
  | append_singleton earlier token ih =>
    rw [regionAfter, List.foldl_append] at inTag
    change (regionAfter .text earlier).after token.kind = .tag at inTag
    unfold Region.after at inTag
    split at inTag
    · rename_i opens
      exact ⟨earlier, token, [], rfl, opens, nofun⟩
    split at inTag
    · cases inTag
    · rename_i _ open'
      obtain ⟨front, opening, back, rfl, opens, unclosed⟩ := ih inTag
      refine ⟨front, opening, back ++ [token], by rw [List.append_assoc]; rfl, opens, fun other among => ?_⟩
      rcases List.mem_append.mp among with before | last
      · exact unclosed other before
      · rw [List.mem_singleton.mp last]
        exact Bool.eq_false_iff.mpr open'

namespace Walk

variable {source file : String} {region : Region} {reached : Nat} {token : Token} {tokens earlier later : List Token}

theorem passed (walk : Walk source file region reached (token :: later)) : Passed source region reached token.start := by
  cases walk with
  | ending small passed =>
    rw [start_atEnd small]
    exact passed
  | token passed _ _ _ _ => exact passed

theorem placed (walk : Walk source file region reached (token :: later)) : Placed source file token := by
  cases walk with
  | ending small _ =>
    have ends : Boundary source (atEnd (.behind source.utf8ByteSize file)).start := by
      rw [start_atEnd small]
      exact Source.boundary_end source
    exact ⟨⟨rfl, rfl⟩, ends, ends⟩
  | token _ placed _ _ _ => exact placed

theorem extended (walk : Walk source file region reached (token :: later)) (more : later ≠ []) :
    token.start < token.stop := by
  cases walk with
  | ending => contradiction
  | token _ _ extended _ _ => exact extended

theorem written (walk : Walk source file region reached (token :: later)) (more : later ≠ []) :
    Written region token.kind token.value (token.piece source).toList := by
  cases walk with
  | ending => contradiction
  | token _ _ _ written _ => exact written

theorem goesOn (walk : Walk source file region reached (token :: later)) (more : later ≠ []) :
    Walk source file (region.after token.kind) token.stop later := by
  cases walk with
  | ending => contradiction
  | token _ _ _ _ goesOn => exact goesOn

theorem leadsTo (walk : Walk source file region reached (earlier ++ token :: later)) :
    Walk source file (regionAfter region earlier) (reach reached earlier) (token :: later) := by
  induction earlier generalizing region reached with
  | nil => exact walk
  | cons first earlier ih => exact ih (walk.goesOn (List.append_ne_nil_of_right_ne_nil _ (List.cons_ne_nil _ _)))

theorem fits (walk : Walk source file .text 0 (earlier ++ token :: later)) : Fits source file earlier token later := by
  have here := walk.leadsTo
  refine ⟨here.placed, here.passed.le, here.passed.blank, fun any => opened_of_regionAfter (here.passed.inside any),
    here.extended, fun more kind value => ⟨fun written => written.unique (here.written more), ?_⟩⟩
  rintro ⟨rfl, rfl⟩
  exact here.written more

theorem start_le (walk : Walk source file region reached tokens) : ∀ token ∈ tokens, reached ≤ token.start := by
  induction walk with
  | ending small passed =>
    intro token among
    rw [List.mem_singleton.mp among, start_atEnd small]
    exact passed.le
  | token passed placed extended written goesOn ih =>
    intro token among
    rcases List.mem_cons.mp among with rfl | later
    · exact passed.le
    · exact Nat.le_trans passed.le (Nat.le_trans (Nat.le_of_lt extended) (ih token later))

theorem ordered (walk : Walk source file region reached tokens) :
    tokens.Pairwise fun token later => token.stop ≤ later.start := by
  induction walk with
  | ending => exact List.pairwise_singleton _ _
  | token passed placed extended written goesOn ih => exact List.pairwise_cons.mpr ⟨goesOn.start_le, ih⟩

theorem getLast? (walk : Walk source file region reached tokens) :
    tokens.getLast? = some (atEnd (.behind source.utf8ByteSize file)) := by
  induction walk with
  | ending => rfl
  | token passed placed extended written goesOn ih => rw [List.getLast?_cons, ih]; rfl

theorem le_end (walk : Walk source file region reached tokens) : reached ≤ source.utf8ByteSize := by
  induction walk with
  | ending small passed => exact passed.le
  | token passed placed extended written goesOn ih => exact Nat.le_trans passed.le (Nat.le_trans (Nat.le_of_lt extended) ih)

theorem retold_eq (walk : Walk source file region reached tokens) (boundary : Boundary source reached) :
    retold source reached tokens = slice source reached source.utf8ByteSize := by
  induction walk with
  | ending small passed =>
    have starts := start_atEnd small file
    have stops : (atEnd (.behind source.utf8ByteSize file)).stop = source.utf8ByteSize := starts
    have nothing : (atEnd (.behind source.utf8ByteSize file)).piece source = "" := by
      rw [Token.piece, starts, stops, Source.slice_end]
    rw [retold, retold, starts, nothing, String.append_empty, String.append_empty]
  | token passed placed extended written goesOn ih =>
    obtain ⟨starts, stops⟩ := placed.boundaries
    have ends := Source.boundary_end source
    have piece := Source.slice_append starts stops ends (Nat.le_of_lt extended) goesOn.le_end
    have gap := Source.slice_append boundary starts ends passed.le (Nat.le_trans (Nat.le_of_lt extended) goesOn.le_end)
    rw [retold, ih stops, Token.piece, piece, gap]

end Walk

end covering

theorem walk_of_tokenize {source file : String} {tokens : List Token} (small : source.utf8ByteSize < 2 ^ 32)
    (read : tokenize source file = .ok tokens) : Walk source file .text 0 tokens :=
  @ofChars_walk source file .text [] [] source.toList 0 tokens small read rfl rfl nofun nofun

theorem tokenize_covers {source file : String} {tokens : List Token} (small : source.utf8ByteSize < 2 ^ 32)
    (read : tokenize source file = .ok tokens) : Cover source file tokens := by
  have walk := walk_of_tokenize small read
  refine ⟨walk.getLast?, ?_, walk.ordered, ?_⟩
  · rintro earlier token later rfl
    exact walk.fits
  · rw [walk.retold_eq (Source.boundary_zero source), Source.slice_all]

-- `é{$a ?: 'it\'s' + 2.50e1}`, with a no-break space of two bytes behind the `?:`
def mixedSource : String := "é\x7b$a ?:\u00a0'it\\'s' + 2.50e1\x7d"

def mixedTokens : List Token := (tokenize mixedSource defaultFile).toOption.getD []

theorem tokenize_covers_mixedSource : mixedSource.utf8ByteSize < 2 ^ 32 ∧ tokenize mixedSource defaultFile = .ok mixedTokens ∧
    mixedTokens.map word = [(.text, "é"), (.openCurly, "\x7b"), (.variableName, "a"), (.elvis, "?:"), (.string, "it's"),
      (.plus, "+"), (.number, "2.50e1"), (.closeCurly, "\x7d"), (.eof, "EOF")] ∧
    mixedTokens.map start = [0, 2, 3, 6, 10, 18, 20, 26, 27] ∧ mixedTokens.map stop = [2, 3, 5, 8, 17, 19, 26, 27, 27] ∧
    Cover mixedSource defaultFile mixedTokens := by
  have found : (tokenize mixedSource defaultFile).toOption.isSome := by decide +kernel
  have read : tokenize mixedSource defaultFile = .ok mixedTokens := by
    cases outcome : tokenize mixedSource defaultFile with
    | ok tokens =>
      rw [mixedTokens, outcome]
      rfl
    | error diagnostic =>
      rw [outcome] at found
      cases found
  have small : mixedSource.utf8ByteSize < 2 ^ 32 := by decide
  exact ⟨small, read, by decide +kernel, by decide +kernel, by decide +kernel, tokenize_covers small read⟩

end Token
end TypedTemplate
