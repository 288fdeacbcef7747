import LivePage.LineMap
import LivePage.Schedule.Imperative
import LivePage.Schedule.Mask
/-!
# Scanning prose

Reads a body line by line for schedule tokens and imperatives. Byte ranges of code, link destinations and
autolinks are masked first. An at sign starts a token unless a backslash, another at sign, a letter or a number
comes right before it.
-/
namespace LivePage

open Text

/-- All that a scan finds, in the order of the body (`ScanOutput`). -/
structure ScanResult where
  tokens : List ScheduleToken := []
  imperatives : List Imperative := []
  warnings : List ScheduleWarning := []
deriving DecidableEq, Repr

namespace ScanResult

/-- What two pieces of a body give, one after the other. -/
def append (a b : ScanResult) : ScanResult :=
  ⟨a.tokens ++ b.tokens, a.imperatives ++ b.imperatives, a.warnings ++ b.warnings⟩

end ScanResult

/-- Whether an at sign may start a token after this character (`starts_token`). -/
def startsToken : Option Char → Bool
  | none => true
  | some c => c != '\\' && c != '@' && !isAlphanumeric c

/-- The candidate tokens of a text that comes after a character and starts at a byte offset (`token_spans`). -/
def tokenSpans : Option Char → Nat → List Char → List PlacedWord
  | _, _, [] => []
  | previous, offset, c :: cs =>
    let later := tokenSpans (some c) (offset + c.utf8Size) cs
    if c = '@' ∧ startsToken previous ∧ 1 < (tokenText (c :: cs)).length then
      ⟨offset, tokenText (c :: cs)⟩ :: later
    else later

/-- A candidate is a token or a warning that it is malformed. -/
def readCandidate (line : Nat) (w : PlacedWord) : ScanResult :=
  let raw := String.ofList w.text
  match Schedule.parseToken raw with
  | .ok s => { tokens := [⟨raw, line, w.start + 1, s⟩] }
  | .error e => { warnings := [⟨raw, line, w.start + 1, e.message⟩] }

/-- Scans one line: its tokens, then the imperative that it may be. -/
def scanLine? (masked unmasked : List Char) (line : Nat) : Option ScanResult := do
  let candidates := (tokenSpans none 0 masked).map (readCandidate line)
  let (imperative, warnings) ← Imperative.parseLine? masked unmasked line
  return candidates.foldr ScanResult.append { imperatives := imperative.toList, warnings }

/-- Scans lines that start at a byte offset of the body. -/
def scanLines? (lines : LineMap) : Nat → List (List Char × List Char) → Option ScanResult
  | _, [] => some {}
  | offset, (masked, unmasked) :: rest => do
    let here ← scanLine? (dropLineEnd masked) (dropLineEnd unmasked) (lines.lineOf offset)
    return here.append (← scanLines? lines (offset + byteLength masked) rest)

/-- Scans a body outside some byte ranges (`scan`). There is no answer when a range runs backwards, or when a message
would start inside a character. -/
def scan? (body : String) (ranges : List Span) (lines : LineMap) : Option ScanResult :=
  let cs := body.toList
  if Mask.wellFormed ranges (byteLength cs) then
    scanLines? lines 0 ((linesWithEnds (Mask.apply ranges cs)).zip (linesWithEnds cs))
  else none

end LivePage
