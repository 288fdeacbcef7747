import LivePage.Yaml.Token
/-!
# Directives, anchors and tags

Reads what may stand before a document and what may stand before a node: directives, anchors and aliases, and tags
with their handles and addresses.
-/
namespace LivePage.Yaml

open Text

/-! ## Tags -/

/-- Number of bytes of a character whose first byte in UTF-8 is given. -/
def leadWidth? (octet : Nat) : Option Nat :=
  if octet < 0x80 then some 1
  else if 0xc0 ≤ octet && octet < 0xe0 then some 2
  else if 0xe0 ≤ octet && octet < 0xf0 then some 3
  else if 0xf0 ≤ octet && octet < 0xf8 then some 4
  else none

/-- Bytes written as escapes in an address, at most `fuel` of them; `left` more belong to the same character. -/
def takeOctets (context : String) (start : Mark) :
    Nat → Option Nat → List UInt8 → Cursor → Reading (List UInt8 × Cursor)
  | 0, _, octets, c => .ok (octets, c)
  | fuel + 1, left, octets, c => do
    let octet ← match c.rest with
      | '%' :: a :: b :: _ =>
        if isHexDigit a && isHexDigit b then pure (16 * hexValue a + hexValue b)
        else c.fault context start "did not find URI escaped octet"
      | _ => c.fault context start "did not find URI escaped octet"
    let left ← match left with
      | some n =>
        if 0x80 ≤ octet && octet < 0xc0 then pure n
        else c.fault context start "found an incorrect trailing UTF-8 octet"
      | none =>
        match leadWidth? octet with
        | some n => pure n
        | none => c.fault context start "found an incorrect leading UTF-8 octet"
    let octets := octets ++ [octet.toUInt8]
    let c := c.skipMany 3
    if left = 1 then return (octets, c)
    takeOctets context start fuel (some (left - 1)) octets c

/-- Whether a character may stand in the address of a tag; flow indicators only in some. -/
def isAddressChar (indicators : Bool) (c : Char) : Bool :=
  isNameChar c || ";/?:@&=+$.%!~*'()".toList.contains c || (indicators && ",[]".toList.contains c)

/-- The address of a tag after what has been read of it, in at most `fuel` steps. -/
def takeAddressFrom (context : String) (indicators : Bool) (start : Mark) :
    Nat → List Char → Cursor → Reading (List Char × Cursor)
  | 0, text, c => .ok (text, c)
  | fuel + 1, text, c =>
    match c.peek? with
    | none => .ok (text, c)
    | some x =>
      if !isAddressChar indicators x then .ok (text, c)
      else if x == '%' then do
        let (octets, c) ← takeOctets context start 4 none [] c
        let decoded := (String.fromUTF8? ⟨octets.toArray⟩).getD "\uFFFD"
        takeAddressFrom context indicators start fuel (text ++ decoded.toList) c
      else takeAddressFrom context indicators start fuel (text ++ [x]) c.skip

/-- The address of a tag. What was read as a handle but is none belongs to it, without its first mark. -/
def takeAddress (directive indicators : Bool) (head : List Char) (start : Mark) (c : Cursor) :
    Reading (String × Cursor) := do
  let context := if directive then "while parsing a %TAG directive" else "while parsing a tag"
  let (text, next) ← takeAddressFrom context indicators start (c.rest.length + 1) (head.drop 1) c
  if head.isEmpty && next.mark.index == c.mark.index then
    next.fault context start "did not find expected tag URI"
  return (String.ofList text, next)

/-- The handle of a tag, or what could be one. -/
def takeHandle (directive : Bool) (start : Mark) (c : Cursor) : Reading (List Char × Cursor) := do
  if !c.isAt '!' then
    c.fault (if directive then "while scanning a tag directive" else "while scanning a tag") start
      "did not find expected '!'"
  let (name, next) := c.skip.takeWhile isNameChar
  if next.isAt '!' then return ('!' :: name ++ ['!'], next.skip)
  if directive && !name.isEmpty then
    next.fault "while parsing a tag directive" start "did not find expected '!'"
  return ('!' :: name, next)

def takeTagName (start : Mark) (c : Cursor) : Reading (String × String × Cursor) := do
  if c.isAt '<' 1 then
    let (suffix, c) ← takeAddress false true [] start (c.skipMany 2)
    if !c.isAt '>' then c.fault "while scanning a tag" start "did not find the expected '>'"
    return ("", suffix, c.skip)
  let (handle, c) ← takeHandle false start c
  if 1 < handle.length && handle.getLast? == some '!' then
    let (suffix, c) ← takeAddress false false [] start c
    return (String.ofList handle, suffix, c)
  let (suffix, c) ← takeAddress false false handle start c
  return if suffix.isEmpty then ("", "!", c) else ("!", suffix, c)

def takeTag (inFlow : Bool) (c : Cursor) : Reading (Token × Cursor) := do
  let start := c.mark
  let (handle, suffix, c) ← takeTagName start c
  if !c.isSpaceOrEnd && !(inFlow && c.isAt ',') then
    c.fault "while scanning a tag" start "did not find expected whitespace or line break"
  return (⟨.tag handle suffix, start, c.mark⟩, c)

/-! ## Anchors -/

def takeAnchor (isAlias : Bool) (c : Cursor) : Reading (Token × Cursor) := do
  let (name, next) := c.skip.takeWhile isNameChar
  if name.isEmpty || !(next.isSpaceOrEnd || next.isOneOf "?:,]\x7d%@`") then
    next.fault (if isAlias then "while scanning an alias" else "while scanning an anchor") c.mark
      "did not find expected alphabetic or numeric character"
  let name := String.ofList name
  return (⟨if isAlias then .alias_ name else .anchor name, c.mark, next.mark⟩, next)

/-! ## Directives -/

def takeVersionNumber (start : Mark) (c : Cursor) : Reading (Nat × Cursor) :=
  let context := "while scanning a %YAML directive"
  let (digits, next) := c.takeWhile Char.isDigit
  if digits.isEmpty then c.fault context start "did not find expected version number"
  else if 9 < digits.length then (c.skipMany 9).fault context start "found extremely long version number"
  else .ok (digits.foldl (fun n x => 10 * n + (x.toNat - 48)) 0, next)

def takeVersion (start : Mark) (c : Cursor) : Reading (TokenKind × Cursor) := do
  let (major, c) ← takeVersionNumber start c.skipBlanks
  if !c.isAt '.' then
    c.fault "while scanning a %YAML directive" start "did not find expected digit or '.' character"
  let (minor, c) ← takeVersionNumber start c.skip
  return (.versionDirective major minor, c)

def takeTagDirective (start : Mark) (c : Cursor) : Reading (TokenKind × Cursor) := do
  let context := "while scanning a %TAG directive"
  let (handle, c) ← takeHandle true start c.skipBlanks
  if !c.isBlank then c.fault context start "did not find expected whitespace"
  let (lead, c) ← takeAddress true true [] start c.skipBlanks
  if !c.isSpaceOrEnd then c.fault context start "did not find expected whitespace or line break"
  return (.tagDirective (String.ofList handle) lead, c)

/-- A directive with the rest of its line. -/
def takeDirective (c : Cursor) : Reading (Token × Cursor) := do
  let start := c.mark
  let context := "while scanning a directive"
  let (name, c) := c.skip.takeWhile isNameChar
  if name.isEmpty then c.fault context start "could not find expected directive name"
  if !c.isSpaceOrEnd then c.fault context start "found unexpected non-alphabetical character"
  let (kind, c) ←
    if name = "YAML".toList then takeVersion start c
    else if name = "TAG".toList then takeTagDirective start c
    else c.fault context start "found unknown directive name"
  let token : Token := ⟨kind, start, c.mark⟩
  let c := c.skipComment
  if !c.isBreakOrEnd then c.fault context start "did not find expected comment or line break"
  return (token, c.skipBreak)

end LivePage.Yaml
