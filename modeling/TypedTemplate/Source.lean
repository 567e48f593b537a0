namespace TypedTemplate

-- A place in a named source file. The bytes before it are counted in 32 bits, and from
-- zero again in a source with more.
structure Position where
  bytes : UInt32
  file : String
deriving DecidableEq

namespace Position

def behind (bytes : Nat) (file : String) : Position := ⟨bytes.toUInt32, file⟩

def offset (position : Position) : Nat := position.bytes.toNat

def nowhere : Position := ⟨0, "<null>"⟩

end Position

structure Span where
  start : Position
  stop : Position
deriving DecidableEq

namespace Source

def byteLength : List Char → Nat
  | [] => 0
  | c :: rest => c.utf8Size + byteLength rest

theorem byteLength_append (a b : List Char) : byteLength (a ++ b) = byteLength a + byteLength b := by
  induction a with
  | nil => simp [byteLength]
  | cons c rest ih => simp [byteLength, ih, Nat.add_assoc]

def lines : List Char → List (List Char)
  | [] => []
  | c :: rest =>
    if c = '\n' then [c] :: lines rest
    else match lines rest with
      | [] => [[c]]
      | line :: more => (c :: line) :: more

structure Line where
  number : Nat
  text : List Char
  column : Nat
deriving DecidableEq

def lineAmong (number : Nat) (lines : List (List Char)) (offset : Nat) : Option Line :=
  match lines with
  | [] => none
  | line :: rest =>
    if offset < byteLength line then some ⟨number, line, offset⟩
    else lineAmong (number + 1) rest (offset - byteLength line)

-- Lines count from one. An offset at the end of the source or beyond lies in no line.
def lineAt (source : String) (offset : Nat) : Option Line := lineAmong 1 (lines source.toList) offset

theorem flatten_lines (text : List Char) : (lines text).flatten = text := by
  induction text with
  | nil => rfl
  | cons c rest ih =>
    unfold lines
    split
    · simp [ih]
    · split <;> rename_i split <;> rw [split] at ih <;> simp_all

end Source
end TypedTemplate
