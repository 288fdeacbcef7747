import LivePage.Schedule.Token
import LivePage.Text.Alphanumeric
/-!
# Imperatives

A line that starts with `Notify` or `Run action:`, after list and quotation markers, asks the runtime to do
something, and may carry a schedule token that says when. The line is recognised, and its words and tokens are
found, on the masked line; message and arguments are taken from the line as written, at the same offsets. An
offset that lies inside a character of the line as written has no meaning there, and then there is no answer.
-/
namespace LivePage

open Text

/-- What an imperative asks for. -/
inductive ImperativeAction where
  | notify (message : String)
  | runAction (action : String) (args : List String)
deriving DecidableEq, Repr

def ImperativeAction.kindName : ImperativeAction → String
  | notify _ => "notify"
  | runAction _ _ => "run-action"

/-- A sentence that asks the runtime to do something. -/
structure Imperative where
  action : ImperativeAction
  /-- When to do it; none without a token or when the first one is malformed. -/
  token : Option ScheduleToken
  line : Nat
  /-- The line as written, without white space around it. -/
  raw : String
deriving DecidableEq, Repr

/-! ## Token texts -/

/-- Whether a character ends the text of a token. -/
def endsToken (c : Char) : Bool := isBlank c || c == ';' || c == ')' || c == ']' || c == '}'

/-- Whether a character is punctuation of the sentence when it ends a token. -/
def isSentenceMark (c : Char) : Bool := c == '.' || c == ',' || c == ':' || c == '!' || c == '?'

/-- The token text at the start of a text, without punctuation at its end (`token_text`). -/
def tokenText (cs : List Char) : List Char := dropEndWhile isSentenceMark (cs.takeWhile (!endsToken ·))

/-! ## Words with their places -/

/-- A word of a line with the byte offset at which it starts. -/
structure PlacedWord where
  start : Nat
  text : List Char
deriving DecidableEq, Repr

namespace PlacedWord

def stop (w : PlacedWord) : Nat := w.start + byteLength w.text

/-- Whether the word looks like a token. A word comes after white space, so its at sign is never escaped. -/
def isToken (w : PlacedWord) : Bool := w.text.head? == some '@'

/-- The words of a text that starts at a byte offset (`words`). -/
def list (offset : Nat) (cs : List Char) : List PlacedWord :=
  match _h : cs.dropWhile isBlank with
  | [] => []
  | c :: rest =>
    let start := offset + byteLength (cs.takeWhile isBlank)
    let text := (c :: rest).takeWhile (!isBlank ·)
    ⟨start, text⟩ :: list (start + byteLength text) ((c :: rest).dropWhile (!isBlank ·))
termination_by cs.length
decreasing_by
  have hc : isBlank c = false := by
    have := List.head?_dropWhile_not isBlank cs
    simpa [_h] using this
  have h1 : (c :: rest).length ≤ cs.length := _h ▸ (List.dropWhile_sublist isBlank).length_le
  have h2 := (List.dropWhile_sublist (!isBlank ·) (l := rest)).length_le
  simp only [List.dropWhile_cons, hc, Bool.not_false, if_true]
  simp only [List.length_cons] at h1
  omega

def schedule? (w : PlacedWord) : Option Schedule :=
  match Schedule.parseToken (String.ofList (tokenText w.text)) with
  | .ok s => some s
  | .error _ => none

/-- The token in the word, if it is well formed (`scheduled`). -/
def token? (w : PlacedWord) (line : Nat) : Option ScheduleToken :=
  w.schedule?.map fun s => ⟨String.ofList (tokenText w.text), line, w.start + 1, s⟩

/-- The warning for a well-formed token after the first (`warn_extra`); a malformed one has a warning already. -/
def extraWarning (w : PlacedWord) (line : Nat) : List ScheduleWarning :=
  if w.isToken && w.schedule?.isSome then
    [⟨String.ofList (tokenText w.text), line, w.start + 1,
      "multiple schedule tokens in imperative; only the first is used"⟩]
  else []

end PlacedWord

/-! ## Markers -/

/-- The length in bytes of one marker at the start of a text: a quotation mark, a list bullet or an ordinal. -/
def markerLength (cs : List Char) : Nat :=
  match cs with
  | '>' :: _ => 1
  | c :: b :: _ =>
    if (c == '-' || c == '*' || c == '+') && isBlank b then 1 else ordinal
  | _ => ordinal
where
  /-- The length of digits with a dot or a bracket, before white space. -/
  ordinal : Nat :=
    let digits := cs.takeWhile Char.isDigit
    match digits, cs.dropWhile Char.isDigit with
    | _ :: _, d :: b :: _ => if (d == '.' || d == ')') && isBlank b then digits.length + 1 else 0
    | _, _ => 0

/-- A line after the white space and markers that lead it, with the byte offset at which it goes on (`skip_markers`). -/
def skipMarkers (offset : Nat) (cs : List Char) : Nat × List Char :=
  let rest := cs.dropWhile isBlank
  let start := offset + byteLength (cs.takeWhile isBlank)
  let n := markerLength rest
  if _h : 0 < n ∧ 0 < rest.length then skipMarkers (start + n) (rest.drop n) else (start, rest)
termination_by cs.length
decreasing_by
  have h1 : (cs.dropWhile isBlank).length ≤ cs.length := (List.dropWhile_sublist isBlank).length_le
  have h2 : 0 < markerLength (cs.dropWhile isBlank) ∧ 0 < (cs.dropWhile isBlank).length := _h
  change ((cs.dropWhile isBlank).drop (markerLength (cs.dropWhile isBlank))).length < cs.length
  rw [List.length_drop]
  omega

/-! ## Lines -/

namespace Imperative

/-- The word that leads a notification, with the space after it. -/
def notifyKeyword : List Char := "Notify ".toList

/-- The words that lead the run of an action. -/
def runKeyword : List Char := "Run action:".toList

/-- What one line gives: an imperative or none, and warnings. -/
abbrev LineResult := Option (ImperativeAction × Option ScheduleToken) × List ScheduleWarning

/-- A notification (`notify`): the first word may be its token, and all after that is the message. -/
def notify? (unmasked : List Char) (start : Nat) (ws : List PlacedWord) (line : Nat) : Option LineResult := do
  let (token, messageStart, others) := match ws with
    | w :: rest => if w.isToken then (w.token? line, w.stop, rest) else (none, start, ws)
    | [] => (none, start, [])
  let warnings := others.flatMap (·.extraWarning line)
  let message := String.ofList (trim (← dropBytes? unmasked messageStart))
  if message.isEmpty ∧ token.isNone then return (none, warnings)
  return (some (.notify message, token), warnings)

/-- The run of an action (`run_action`): its name, then arguments, among which the first token says when. -/
def runAction? (unmasked : List Char) (ws : List PlacedWord) (line : Nat) : Option LineResult := do
  match ws with
  | [] => return (none, [])
  | name :: rest =>
    let text (w : PlacedWord) := (sliceBytes? unmasked w.start (byteLength w.text)).map String.ofList
    let action ← text name
    let before := rest.takeWhile (!·.isToken)
    match rest.dropWhile (!·.isToken) with
    | [] => return (some (.runAction action (← before.mapM text), none), [])
    | first :: others =>
      return (some (.runAction action (← (before ++ others).mapM text), first.token? line),
        others.flatMap (·.extraWarning line))

/-- Recognises an imperative on a line (`parse_line`). -/
def parseLine? (masked unmasked : List Char) (line : Nat) : Option (Option Imperative × List ScheduleWarning) := do
  let (start, rest) := skipMarkers 0 masked
  let (result, warnings) ←
    match dropPrefix? notifyKeyword rest, dropPrefix? runKeyword rest with
    | some tail, _ =>
      let start := start + notifyKeyword.length
      notify? unmasked start (PlacedWord.list start tail) line
    | none, some tail => runAction? unmasked (PlacedWord.list (start + runKeyword.length) tail) line
    | none, none => some (none, [])
  return (result.map fun (action, token) => ⟨action, token, line, String.ofList (trim unmasked)⟩, warnings)

end Imperative

end LivePage
