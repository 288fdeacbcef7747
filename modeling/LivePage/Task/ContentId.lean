/-!
# Content ids

A task item without an id of its own is known by a hash of its text: 32-bit FNV-1a over the bytes of its UTF-8
form, written as eight hexadecimal digits.
-/
namespace LivePage

def fnvBasis : UInt32 := 0x811c9dc5

/-- Takes one more byte into a hash. -/
def fnvStep (hash : UInt32) (byte : UInt8) : UInt32 := (hash ^^^ byte.toUInt32) * 0x01000193

def hexDigit (n : Nat) : Char := Char.ofNat (if n < 10 then 48 + n else 87 + n)

/-- The last `width` hexadecimal digits of a number. -/
def hexDigits : Nat → Nat → List Char
  | 0, _ => []
  | width + 1, n => hexDigits width (n / 16) ++ [hexDigit (n % 16)]

/-- The id that the text of a task item gives it (`content_id`). -/
def contentId (text : String) : String :=
  String.ofList (hexDigits 8 (text.toUTF8.toList.foldl fnvStep fnvBasis).toNat)

end LivePage
