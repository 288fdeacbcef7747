import LivePage.Toml.Input
/-!
# Quoted texts of TOML

A text stands between double quotes, where a backslash starts an escape, or between single quotes, where nothing does.
Between three quotes it may go over several lines.
-/
namespace LivePage.Toml

open Text Parse

/-- Whether a character stands for itself between double quotes. -/
def isBasicChar (c : Char) : Bool := isCommentChar c && c != '"' && c != '\\'

/-- Whether a character stands for itself between single quotes. -/
def isLiteralChar (c : Char) : Bool := isCommentChar c && c != '\''

/-- The characters after a backslash that stand for one character. -/
def simpleEscape? (c : Char) : Option Char :=
  match c with
  | 'b' => some '\x08'
  | 'f' => some '\x0c'
  | 'n' => some '\n'
  | 'r' => some '\r'
  | 't' => some '\t'
  | '\\' => some '\\'
  | '"' => some '"'
  | _ => none

/-- The character with a code of exactly `width` hexadecimal digits. -/
def codePoint (width : Nat) : Parse Char := do
  let label := s!"unicode {width}-digit hex code"
  let digits := ((← get).rest.takeWhile isHexDigit).take width
  if digits.length ≠ width then fail (some label) [] else
  let code := digits.foldl (fun n c => 16 * n + hexValue c) 0
  if code.isValidChar then
    skip width
    return Char.ofNat code
  else fail (some label) [] (some "value is out of range")

/-- Reads an escape from its backslash on. -/
def escape : Parse Char := do
  skip 1
  match ← peek with
  | some 'u' =>
    skip 1
    codePoint 4
  | some 'U' =>
    skip 1
    codePoint 8
  | some c =>
    if c.toNat < 128 then skip 1
    match simpleEscape? c with
    | some c => return c
    | none => fail (some "escape sequence") ["`b`", "`f`", "`n`", "`r`", "`t`", "`u`", "`U`", "`\\`", "`\"`"]
  | none => fail none []

def isEscape : Parse Bool := do
  match (← get).rest with
  | '\\' :: _ :: _ => return true
  | _ => return false

/-! ## One line -/

/-- Reads pieces between double quotes, at most `fuel` of them. -/
def basicFrom : Nat → Parse (List Char)
  | 0 => return []
  | fuel + 1 => do
    let plain ← many isBasicChar
    if ← isEscape then
      let c ← escape
      return plain ++ c :: (← basicFrom fuel)
    else return plain

def basicText : Parse String := do
  skip 1
  let cs ← basicFrom ((← get).rest.length + 1)
  if ← skipIf '"' then return String.ofList cs else fail (some "basic string") []

def literalText : Parse String := do
  skip 1
  let cs ← many isLiteralChar
  if ← skipIf '\'' then return String.ofList cs else fail (some "literal string") []

/-! ## Several lines -/

/-- Goes past blanks and line ends, in at most `fuel` steps. -/
def linesFrom : Nat → Parse Unit
  | 0 => return
  | fuel + 1 => do
    blanks
    if ← lineEnd then linesFrom fuel

/-- Goes past a backslash at the end of a line with all the white space after it, if that comes next. -/
def escapedLine : Parse Bool := do
  match (← get).rest with
  | '\\' :: cs =>
    match cs.dropWhile isWhite with
    | '\n' :: _ | '\r' :: '\n' :: _ =>
      skip 1
      linesFrom cs.length
      return true
    | _ => return false
  | _ => return false

/-- Reads a piece between three double quotes, if one comes next. -/
def basicPiece : Parse (Option (List Char)) := do
  match ← many isBasicChar with
  | c :: cs => return some (c :: cs)
  | [] =>
    if ← escapedLine then return some []
    else if ← isEscape then return some [← escape]
    else if ← lineEnd then return some ['\n']
    else return none

/-- Reads a piece between three single quotes, if one comes next. -/
def literalPiece : Parse (Option (List Char)) := do
  match ← many isLiteralChar with
  | c :: cs => return some (c :: cs)
  | [] => if ← lineEnd then return some ['\n'] else return none

/-- Reads pieces up to three quotes, at most `fuel` of them. One or two quotes are text if a piece follows, and up to
two may stand before the three that end it. -/
def piecesFrom (quote : Char) (label : String) (piece : Parse (Option (List Char))) : Nat → Parse (List Char)
  | 0 => return []
  | fuel + 1 => do
    match ← piece with
    | some cs => return cs ++ (← piecesFrom quote label piece fuel)
    | none =>
      let start ← get
      let quotes := (← get).rest.takeWhile (· == quote)
      if quotes.length = 1 ∨ quotes.length = 2 then
        skip quotes.length
        match ← piece with
        | some cs => return quotes ++ cs ++ (← piecesFrom quote label piece fuel)
        | none =>
          set start
          fail (some label) []
      else if quotes.length < 3 then fail (some label) []
      else
        let extra := min (quotes.length - 3) 2
        skip (extra + 3)
        return quotes.take extra

/-- Reads a text between three quotes; a line end right after the first three is no part of it. -/
def longText (quote : Char) (label : String) (piece : Parse (Option (List Char))) : Parse String := do
  skip 3
  let _ ← lineEnd
  return String.ofList (← labelled label (piecesFrom quote label piece ((← get).rest.length + 1)))

/-- Reads a quoted text from its first quote on. -/
def quotedText : Parse String := do
  if ← isNext "\"\"\"" then longText '"' "multiline basic string" basicPiece
  else if ← isNext "'''" then longText '\'' "multiline literal string" literalPiece
  else if ← isNext "\"" then basicText
  else literalText

end LivePage.Toml
