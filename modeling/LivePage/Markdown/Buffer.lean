import LivePage.Text.CharClass
/-!
# Source bytes

The source of a document as bytes of UTF-8, readable up to a limit. Every position in a document is an offset into
these bytes. Scanning functions take a position and return the position after what they found, and reading at or
past the limit finds nothing.
-/
namespace LivePage.Markdown

/-- The bytes of a source, readable before `stop`. How a byte is looked up is left open, but not what is found. -/
structure Buffer where
  bytes : ByteArray
  stop : Nat
  byte? : Nat → Option UInt8 := fun i => bytes[i]?
  byte?_eq : ∀ i, byte? i = bytes[i]? := by exact fun _ => rfl

namespace Buffer

def ofString (s : String) : Buffer := { bytes := s.toUTF8, stop := s.utf8ByteSize }

/-- The same bytes with a limit that is no further. -/
def upTo (b : Buffer) (limit : Nat) : Buffer := { b with stop := min b.stop limit }

def get? (b : Buffer) (i : Nat) : Option UInt8 := if i < b.stop then b.byte? i else none

def isAt (b : Buffer) (i : Nat) (c : Char) : Bool := b.get? i == some c.toUInt8

/-- Whether the byte at a position belongs to a class. -/
def holdsAt (b : Buffer) (p : UInt8 → Bool) (i : Nat) : Bool := (b.get? i).any p

/-- Whether a text of ASCII characters stands at a position. -/
def hasText (b : Buffer) (i : Nat) (text : String) : Bool :=
  (text.toList.zipIdx i).all fun (c, k) => b.isAt k c

/-- The same without regard to the case of letters; the given text is in lower case. -/
def hasTextIgnoringCase (b : Buffer) (i : Nat) (text : String) : Bool :=
  (text.toList.zipIdx i).all fun (c, k) => (b.get? k).any fun x => (Char.ofUInt8 x).toLower == c

def slice (b : Buffer) (start stop : Nat) : String :=
  (String.fromUTF8? (b.bytes.extract start (min stop b.stop))).getD ""

/-! ## Scanning -/

def skipWhile (b : Buffer) (p : UInt8 → Bool) (i : Nat) : Nat := go (b.stop - i) i
where
  go : Nat → Nat → Nat
    | 0, i => i
    | n + 1, i => if b.holdsAt p i then go n (i + 1) else i

def skipChar (b : Buffer) (c : Char) (i : Nat) : Nat := if b.isAt i c then i + 1 else i

/-- Steps over every repetition of a character of ASCII. -/
def skipRun (b : Buffer) (c : Char) (i : Nat) : Nat := b.skipWhile (· == c.toUInt8) i

/-- The position of the next byte of a class, or the limit. -/
def find (b : Buffer) (p : UInt8 → Bool) (i : Nat) : Nat := b.skipWhile (!p ·) i

/-- Number of bytes of a class that end at a position and start no earlier than `start`. -/
def countBack (b : Buffer) (p : UInt8 → Bool) (start i : Nat) : Nat := go (i - start) i
where
  go : Nat → Nat → Nat
    | 0, _ => 0
    | n + 1, i => if b.holdsAt p (i - 1) then go n (i - 1) + 1 else 0

end Buffer

/-! ## Byte classes -/

/-- Whether a byte is one of some characters of ASCII. -/
def isOneOf (cs : String) (x : UInt8) : Bool := x < 128 && cs.toList.contains (Char.ofUInt8 x)

/-- White space within a line: space, tab, vertical tab and form feed. -/
def isInlineSpace (x : UInt8) : Bool := x == 32 || x == 9 || x == 11 || x == 12

def isEol (x : UInt8) : Bool := x == 10 || x == 13

/-- White space of ASCII. -/
def isSpace (x : UInt8) : Bool := isInlineSpace x || isEol x

def isLetter (x : UInt8) : Bool := (65 ≤ x && x ≤ 90) || (97 ≤ x && x ≤ 122)

def isDigit (x : UInt8) : Bool := 48 ≤ x && x ≤ 57

def isLetterOrDigit (x : UInt8) : Bool := isLetter x || isDigit x

def isPunct (x : UInt8) : Bool :=
  (33 ≤ x && x ≤ 47) || (58 ≤ x && x ≤ 64) || (91 ≤ x && x ≤ 96) || (123 ≤ x && x ≤ 126)

/-- A byte that continues a character begun by an earlier byte. -/
def isContinuation (x : UInt8) : Bool := 128 ≤ x && x < 192

namespace Buffer

/-! ## Lines -/

/-- The position after a line end; the end of the source counts as one. -/
def skipEol? (b : Buffer) (i : Nat) : Option Nat :=
  match b.get? i with
  | none => some i
  | some 10 => some (i + 1)
  | some 13 => some (if b.isAt (i + 1) '\n' then i + 2 else i + 1)
  | some _ => none

def skipSpace (b : Buffer) (i : Nat) : Nat := b.skipWhile isInlineSpace i

/-- The position after a rest of a line that is blank. -/
def skipBlankLine? (b : Buffer) (i : Nat) : Option Nat := b.skipEol? (b.skipSpace i)

def isBlankAt (b : Buffer) (i : Nat) : Bool := (b.skipBlankLine? i).isSome

/-- The position after the next line feed, or the limit. -/
def nextLine (b : Buffer) (i : Nat) : Nat := min (b.find (· == 10) i + 1) b.stop

/-! ## Characters -/

def charAt? (b : Buffer) (i : Nat) : Option Char :=
  match b.get? i with
  | none => none
  | some x =>
    let size := if x < 0x80 then 1 else if x < 0xe0 then 2 else if x < 0xf0 then 3 else 4
    (b.slice i (i + size)).toList.head?

def charBefore? (b : Buffer) (i : Nat) : Option Char :=
  if i = 0 then none else b.charAt? (i - 1 - b.countBack isContinuation 0 i)

end Buffer

end LivePage.Markdown
