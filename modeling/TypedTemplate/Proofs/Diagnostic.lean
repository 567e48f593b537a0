import TypedTemplate.Diagnostic
import TypedTemplate.Proofs.Numeral.Integer
import TypedTemplate.Proofs.Source.Line

namespace TypedTemplate

namespace Text

variable {text : List Char}

theorem trimEnd_append {blanks : List Char} (blank : ∀ c ∈ blanks, isBlank c = true) :
    trimEnd (text ++ blanks) = trimEnd text := by
  rw [trimEnd, List.reverse_append, List.dropWhile_append_of_pos, trimEnd]
  intro c present
  exact blank c (List.mem_reverse.mp present)

theorem trimEnd_eq_self (ends : ∀ c, text.getLast? = some c → isBlank c = false) : trimEnd text = text := by
  rw [trimEnd, ← List.reverse_inj, List.reverse_reverse]
  rw [← List.head?_reverse] at ends
  cases reversed : text.reverse with
  | nil => rfl
  | cons c rest =>
    rw [reversed] at ends
    rw [List.dropWhile_cons, ends c rfl]
    rfl

theorem exists_blanks (text : List Char) : ∃ blanks, text = trimEnd text ++ blanks ∧ ∀ c ∈ blanks, isBlank c = true := by
  refine ⟨(text.reverse.takeWhile isBlank).reverse, ?_, ?_⟩
  · rw [trimEnd, ← List.reverse_append, List.takeWhile_append_dropWhile, List.reverse_reverse]
  · intro c present
    exact List.all_eq_true.mp List.all_takeWhile c (List.mem_reverse.mp present)

theorem not_blank_of_getLast?_trimEnd {c : Char} (last : (trimEnd text).getLast? = some c) : isBlank c = false := by
  have head := List.head?_dropWhile_not isBlank text.reverse
  rw [trimEnd, List.getLast?_reverse] at last
  rw [last] at head
  exact head

end Text

namespace Source

open Text (isBlank)

-- A line as it is shown, apart at the character in its column: without the spaces in front
-- and without the white space at its end.
structure Line.Shown (line : Line) (left : List Char) (c : Char) (right : List Char) : Prop where
  whole : ∃ spaces blanks, line.text = spaces ++ (left ++ c :: right) ++ blanks ∧ (∀ d ∈ spaces, d = ' ') ∧
    (∀ d ∈ blanks, isBlank d = true) ∧ byteLength (spaces ++ left) = line.column
  starts : (left ++ c :: right).head? ≠ some ' '
  ends : ∀ d, (left ++ c :: right).getLast? = some d → isBlank d = false

variable {source : String} {offset : Nat} {line : Line} {before after left right : List Char} {c : Char}

theorem Line.Holds.split (holds : line.Holds source offset) (place : source.toList = before ++ c :: after)
    (start : offset = byteLength before) :
    ∃ front back, line.text = front ++ c :: back ∧ byteLength front = line.column := by
  obtain ⟨earlier, later, divided, _, reached⟩ := holds.placed
  have whole : earlier.flatten ++ (line.text ++ later.flatten) = before ++ c :: after := divided.around.symm.trans place
  rw [start] at reached
  obtain ⟨front, rfl⟩ := prefix_of_byteLength_le whole (by omega)
  have column : byteLength front = line.column := by
    rw [byteLength_append] at reached
    omega
  rw [List.append_assoc, List.append_cancel_left_eq] at whole
  obtain ⟨back, text⟩ := prefix_of_byteLength_le whole.symm (by rw [column]; exact Nat.le_of_lt holds.inside)
  cases back with
  | nil =>
    have inside := holds.inside
    rw [text, List.append_nil, column] at inside
    exact absurd inside (Nat.lt_irrefl _)
  | cons d back =>
    rw [text, List.append_assoc, List.append_cancel_left_eq] at whole
    obtain ⟨rfl, _⟩ := List.cons.inj whole
    exact ⟨front, back, text, column⟩

theorem head?_afterSpaces (front back : List Char) (seen : isBlank c = false) :
    (front.dropWhile (· == ' ') ++ c :: back).head? ≠ some ' ' := by
  have head := List.head?_dropWhile_not (· == ' ') front
  cases rest : front.dropWhile (· == ' ') with
  | nil =>
    intro same
    cases same
    revert seen
    decide
  | cons d more =>
    rw [rest] at head
    simpa using head

theorem getLast?_beforeBlanks (front back : List Char) (seen : isBlank c = false) {d : Char}
    (last : (front ++ c :: Text.trimEnd back).getLast? = some d) : isBlank d = false := by
  rw [List.getLast?_append_cons] at last
  cases rest : Text.trimEnd back with
  | nil =>
    rw [rest] at last
    cases last
    exact seen
  | cons e more =>
    rw [rest, List.getLast?_cons_cons, ← rest] at last
    exact Text.not_blank_of_getLast?_trimEnd last

theorem Line.Holds.exists_shown (holds : line.Holds source offset) (place : source.toList = before ++ c :: after)
    (start : offset = byteLength before) (seen : isBlank c = false) : ∃ left right, line.Shown left c right := by
  obtain ⟨front, back, text, column⟩ := holds.split place start
  obtain ⟨blanks, trimmed, blank⟩ := Text.exists_blanks back
  have apart : front = front.takeWhile (· == ' ') ++ front.dropWhile (· == ' ') := List.takeWhile_append_dropWhile.symm
  have spaces : ∀ d ∈ front.takeWhile (· == ' '), d = ' ' := by
    intro d present
    exact eq_of_beq (List.all_eq_true.mp List.all_takeWhile d present)
  refine ⟨front.dropWhile (· == ' '), Text.trimEnd back, ⟨front.takeWhile (· == ' '), blanks, ?_, spaces, blank, ?_⟩,
    head?_afterSpaces front _ seen, fun d => getLast?_beforeBlanks _ back seen⟩
  · rw [text, List.append_assoc, List.append_assoc, List.cons_append, ← trimmed, ← List.append_assoc, ← apart]
  · rw [← apart, column]

theorem Line.Holds.unbroken (holds : line.Holds source offset) : Unbroken line.text := by
  obtain ⟨_, _, divided, _⟩ := holds.placed
  exact divided.newlines.2

theorem Line.Shown.single (shown : line.Shown left c right) (unbroken : Unbroken line.text) :
    '\n' ∉ left ++ c :: right := by
  obtain ⟨spaces, blanks, whole, _⟩ := shown.whole
  intro present
  rcases unbroken with absent | ⟨front, absent, split⟩
  · apply absent
    rw [whole]
    exact List.mem_append_left _ (List.mem_append_right _ present)
  · rw [whole] at split
    rcases List.eq_nil_or_concat blanks with rfl | ⟨others, last, rfl⟩
    · have newline : (left ++ c :: right).getLast? = some '\n' := by
        have last := congrArg List.getLast? split
        rw [List.append_nil] at last
        simpa [List.getLast?_append] using last
      exact absurd (shown.ends '\n' newline) (by decide)
    · rw [List.concat_eq_append, ← List.append_assoc] at split
      obtain ⟨same, _⟩ := List.append_inj' split rfl
      exact absent (same ▸ List.mem_append_left _ (List.mem_append_right _ present))

theorem Divided.behind {text text' : List Char} {pieces rows : List (List Char)} (divided : Divided text pieces)
    (rest : Divided text' rows) : ∃ above, Divided (text ++ '\n' :: text') (above ++ rows) := by
  induction divided with
  | none => exact ⟨[['\n']], @Divided.next [] _ _ List.not_mem_nil rest⟩
  | @last line any absent => exact ⟨[line ++ ['\n']], .next absent rest⟩
  | @next line text lines single after ih =>
    obtain ⟨above, others⟩ := ih
    refine ⟨(line ++ ['\n']) :: above, ?_⟩
    rw [List.append_assoc]
    exact .next single others

end Source

namespace Diagnostic

open Source (byteLength Divided)
open Text (isBlank)

-- How a rendering ends: with a line behind its number, and a row with one caret below. What
-- that row begins with is as wide as the number with its bar; so many marks come after it.
def Points (rendered : String) (number : Nat) (shown : List Char) (column : Nat) : Prop :=
  let numbered := (toString number ++ " | ").toList
  ∃ above lead marks, Divided rendered.toList (above ++ [numbered ++ shown ++ ['\n'], lead ++ marks ++ ['^', '\n']]) ∧
    lead.length = numbered.length ∧ marks.length = column ∧ '^' ∉ lead ++ marks

theorem takeWhile_spaces {spaces shown : List Char} (each : ∀ d ∈ spaces, d = ' ') (starts : shown.head? ≠ some ' ') :
    (spaces ++ shown).takeWhile (· == ' ') = spaces := by
  rw [List.takeWhile_append_of_pos]
  · cases shown with
    | nil => simp
    | cons d rest =>
      have other : d ≠ ' ' := by simpa using starts
      simp [other]
  · intro d present
    simp [each d present]

def gutter (number : Nat) : List Char := List.replicate ((toString number).length + 1) ' ' ++ ['|']

theorem excerpt_eq {line : Source.Line} {left right : List Char} {c : Char} (shown : line.Shown left c right) :
    (excerpt line).toList = gutter line.number ++ '\n' ::
      ((toString line.number ++ " | ").toList ++ (left ++ c :: right) ++ '\n' ::
        (gutter line.number ++ [' '] ++ List.replicate (byteLength left) '-' ++ ['^'] ++ ['\n'])) := by
  obtain ⟨spaces, blanks, whole, each, blank, column⟩ := shown.whole
  have starts : ((left ++ c :: right) ++ blanks).head? ≠ some ' ' := by
    have starts := shown.starts
    rw [List.head?_append]
    cases left <;> simpa using starts
  have indent : (line.text.takeWhile (· == ' ')).length = spaces.length := by
    rw [whole, List.append_assoc, takeWhile_spaces each starts]
  have trimmed : Text.trimEnd (line.text.drop spaces.length) = left ++ c :: right := by
    rw [whole, List.append_assoc, List.drop_left, Text.trimEnd_append blank, Text.trimEnd_eq_self shown.ends]
  have marks : line.column - spaces.length = byteLength left := by
    rw [← column, Source.byteLength_append, (Source.byteLength_eq_length_iff spaces).mpr fun d among => each d among ▸ rfl]
    omega
  unfold excerpt
  simp only [indent, trimmed, marks]
  simp [gutter, List.leftpad]

theorem newline_notMem_number (number : Nat) : '\n' ∉ (toString number).toList := by
  have digits : (toString number).toList = Nat.toDigits 10 number := Nat.toList_repr
  intro present
  rw [digits] at present
  exact absurd (Numeral.isDigit_of_decimal present) (by decide)

variable {source : String} {diagnostic : Diagnostic} {line : Source.Line} {left right : List Char} {c : Char}

theorem render_eq (holds : line.Holds source diagnostic.position.offset) : (diagnostic.render source).toList =
    (headline diagnostic.fault ++ "-> " ++ diagnostic.position.file).toList ++ '\n' :: (excerpt line).toList := by
  unfold render
  simp [Source.lineAt_eq_some_iff.mpr holds]

theorem points_render (holds : line.Holds source diagnostic.position.offset) (shown : line.Shown left c right) :
    Points (diagnostic.render source) line.number (left ++ c :: right) (byteLength left) := by
  have bars : '\n' ∉ gutter line.number := by simp [gutter]
  have row : '\n' ∉ (toString line.number ++ " | ").toList ++ (left ++ c :: right) := by
    rw [String.toList_append, List.mem_append, List.mem_append, not_or, not_or]
    exact ⟨⟨newline_notMem_number line.number, by decide⟩, shown.single holds.unbroken⟩
  have marks : '\n' ∉ gutter line.number ++ [' '] ++ List.replicate (byteLength left) '-' ++ ['^'] := by
    simp [gutter]
  have rows := Divided.next bars (.next row (.next marks .none))
  have front := Source.lines_divided (headline diagnostic.fault ++ "-> " ++ diagnostic.position.file).toList
  obtain ⟨above, divided⟩ := front.behind rows
  rw [← excerpt_eq shown, ← render_eq holds] at divided
  refine ⟨above ++ [gutter line.number ++ ['\n']], gutter line.number ++ [' '], .replicate (byteLength left) '-', ?_, ?_,
    List.length_replicate, ?_⟩
  · simpa using divided
  · rw [String.toList_append, List.length_append, List.length_append, String.length_toList]
    simp [gutter]
  · simp [gutter]

theorem Points.unique {rendered : String} {number column column' : Nat} {shown shown' : List Char}
    (one : Points rendered number shown column) (other : Points rendered number shown' column') :
    shown = shown' ∧ column = column' := by
  obtain ⟨above, lead, marks, divided, width, length, _⟩ := one
  obtain ⟨above', lead', marks', divided', width', length', _⟩ := other
  have rows := divided.eq_lines.trans divided'.eq_lines.symm
  obtain ⟨row, rest⟩ := List.cons.inj (List.append_inj_right' rows rfl)
  obtain ⟨caret, _⟩ := List.cons.inj rest
  constructor
  · exact List.append_cancel_left (List.append_cancel_right row)
  · have wide := congrArg List.length caret
    simp only [List.length_append] at wide
    omega

structure Marked (source : String) (diagnostic : Diagnostic) (line : Source.Line) (left : List Char) (c : Char)
    (right : List Char) (marks : Nat) : Prop where
  holds : line.Holds source diagnostic.position.offset
  shown : line.Shown left c right
  points : Points (diagnostic.render source) line.number (left ++ c :: right) marks

-- A caret is as far to the right as there are bytes in front of its place, and so it is below
-- the place just if none of the characters there is wider than a byte.
theorem marked_length_iff (holds : line.Holds source diagnostic.position.offset) (shown : line.Shown left c right) :
    Marked source diagnostic line left c right left.length ↔ ∀ d ∈ left, d.utf8Size = 1 := by
  have points := points_render holds shown
  rw [← Source.byteLength_eq_length_iff]
  constructor
  · intro marked
    exact (points.unique marked.points).2
  · intro same
    exact ⟨holds, shown, same ▸ points⟩

-- A place is shown with the line around it, stripped, and a caret below. There are as many
-- marks before the caret as there are bytes before the place in what is shown; as many as
-- there are characters only where all of these are one byte wide. The caret is padded to any
-- width here. Where widths are kept in 16 bits this is so of places up to 65534 bytes behind
-- the indent, and those further on cannot be shown.
theorem render_points (source : String) (diagnostic : Diagnostic) {before after : List Char} {c : Char}
    (place : source.toList = before ++ c :: after) (start : diagnostic.position.offset = byteLength before)
    (seen : isBlank c = false) :
    ∃ line left right, Marked source diagnostic line left c right (byteLength left) ∧
      (Marked source diagnostic line left c right left.length ↔ ∀ d ∈ left, d.utf8Size = 1) := by
  have inside : ¬source.utf8ByteSize ≤ diagnostic.position.offset := by
    have wide := c.utf8Size_pos
    rw [← Source.byteLength_toList, place, Source.byteLength_append, byteLength, start]
    omega
  cases found : Source.lineAt source diagnostic.position.offset with
  | none => exact absurd (Source.lineAt_eq_none_iff.mp found) inside
  | some line =>
    have holds := Source.lineAt_eq_some_iff.mp found
    obtain ⟨left, right, shown⟩ := holds.exists_shown place start seen
    exact ⟨line, left, right, ⟨holds, shown, points_render holds shown⟩, marked_length_iff holds shown⟩

def undefinedAt (offset : Nat) : Diagnostic := ⟨.undefinedName "a", .behind offset "test.soy", none⟩

-- `{template .t}`, and `{$a}` behind a tab on the next line, which is indented.
def tabbedStart : String := "\x7btemplate .t\x7d\n  \t\x7b"

def tabbedPage : String := tabbedStart ++ "$a\x7d \r\n\x7b/template\x7d"

-- `{template .t}é{$a}{/template}`
def accentedStart : String := "\x7btemplate .t\x7dé\x7b"

def accentedPage : String := accentedStart ++ "$a\x7d\x7b/template\x7d"

theorem tabbedPage_split : tabbedPage.toList = tabbedStart.toList ++ '$' :: "a\x7d \r\n\x7b/template\x7d".toList := by
  decide

theorem accentedPage_split : accentedPage.toList = accentedStart.toList ++ '$' :: "a\x7d\x7b/template\x7d".toList := by
  decide

theorem render_points_undefinedAt :
    tabbedPage.toList = tabbedStart.toList ++ '$' :: "a\x7d \r\n\x7b/template\x7d".toList ∧
      (undefinedAt 18).position.offset = byteLength tabbedStart.toList ∧
      accentedPage.toList = accentedStart.toList ++ '$' :: "a\x7d\x7b/template\x7d".toList ∧
      (undefinedAt 16).position.offset = byteLength accentedStart.toList ∧ isBlank '$' = false ∧
      (∃ line left right, Marked tabbedPage (undefinedAt 18) line left '$' right (byteLength left)) ∧
      (∃ line left right, Marked accentedPage (undefinedAt 16) line left '$' right (byteLength left)) ∧
      (undefinedAt 18).render tabbedPage =
        headline (.undefinedName "a") ++ "-> test.soy\n  |\n2 | \t\x7b$a\x7d\n  | --^\n" ∧
      (undefinedAt 16).render accentedPage =
        headline (.undefinedName "a") ++
          "-> test.soy\n  |\n1 | \x7btemplate .t\x7dé\x7b$a\x7d\x7b/template\x7d\n  | ----------------^\n" := by
  obtain ⟨line, left, right, marked, _⟩ :=
    render_points tabbedPage (undefinedAt 18) tabbedPage_split (by decide) (by decide)
  obtain ⟨line', left', right', marked', _⟩ :=
    render_points accentedPage (undefinedAt 16) accentedPage_split (by decide) (by decide)
  exact ⟨tabbedPage_split, by decide, accentedPage_split, by decide, by decide, ⟨line, left, right, marked⟩,
    ⟨line', left', right', marked'⟩, by decide +kernel, by decide +kernel⟩

-- A caret does not always stand below its place: behind an `é` it is a character late.
theorem caret_not_always_below : ¬∀ (source : String) (diagnostic : Diagnostic) (before after : List Char) (c : Char),
    source.toList = before ++ c :: after → diagnostic.position.offset = byteLength before → isBlank c = false →
      ∃ line left right, Marked source diagnostic line left c right left.length := by
  intro below
  obtain ⟨line, left, right, marked⟩ :=
    below accentedPage (undefinedAt 16) _ _ '$' accentedPage_split (by decide) (by decide)
  have single := (marked_length_iff marked.holds marked.shown).mp marked
  obtain ⟨spaces, blanks, whole, each, _, column⟩ := marked.shown.whole
  have known : Source.lineAt accentedPage 16 = some ⟨1, accentedPage.toList, 16⟩ := by decide
  have only : line = ⟨1, accentedPage.toList, 16⟩ :=
    Option.some.inj ((Source.lineAt_eq_some_iff.mpr marked.holds).symm.trans known)
  subst only
  have narrow : ∀ d ∈ spaces ++ left, d.utf8Size = 1 := by
    intro d present
    rcases List.mem_append.mp present with space | before
    · rw [each d space]
      rfl
    · exact single d before
  have sixteen : (spaces ++ left).length = 16 := by
    rw [← (Source.byteLength_eq_length_iff _).mpr narrow, column]
  have start : accentedPage.toList.take 16 = spaces ++ left := by
    change accentedPage.toList = _ at whole
    rw [whole, ← sixteen, List.append_assoc, List.append_assoc, ← List.append_assoc spaces, List.take_left]
  have wide : 'é' ∈ accentedPage.toList.take 16 := by decide
  rw [start] at wide
  exact absurd (narrow 'é' wide) (by decide)

end Diagnostic
end TypedTemplate
