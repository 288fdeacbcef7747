import LivePage.Compile
import LivePage.Conformance.Expectation
/-!
# Checking expectations

Compares what a document compiled to with what was expected. A check gives the reason for which it fails, if it does;
of several checks the first failing one counts.
-/
namespace LivePage

open Text

/-! ## Messages -/

/-- A list of texts as messages show it. -/
def quotedList (texts : List String) : String := "[" ++ ", ".intercalate (texts.map quoted) ++ "]"

/-- A text that may be absent as messages show it. -/
def quotedOption : Option String → String
  | some text => s!"Some({quoted text})"
  | none => "None"

/-- Whether a text has another one in it. -/
def hasPart (text part : String) : Bool := occursIn part.toList text.toList

def reasonUnless (holds : Bool) (reason : String) : Option String := if holds then none else some reason

def firstReason (checks : List (Option String)) : Option String := checks.findSome? id

/-- A check of what is expected, if anything is. -/
def whenExpected {α : Type} (expected : Option α) (check : α → Option String) : Option String := expected.bind check

namespace Expectations

/-! ## Errors -/

/-- Checks an error (`check_error`). -/
def checkError (e : Expectations) (error : CompileError) : Option String :=
  firstReason [
    whenExpected e.error fun part =>
      reasonUnless (hasPart error.message part) s!"expected error containing \"{part}\", got: {error.message}",
    whenExpected e.errorKind fun kind =>
      reasonUnless (error.kind.name == kind) s!"expected {kind} error, got {error.kind.name}",
    whenExpected e.errorLine fun line =>
      reasonUnless (error.line == line) s!"expected error on line {line}, got line {error.line}",
    whenExpected e.hint fun part =>
      let hint := error.hint.getD ""
      let shown := if hint.isEmpty then "(none)" else hint
      reasonUnless (hasPart hint part) s!"expected hint containing \"{part}\", got: {shown}"]

/-! ## Pages -/

def checkTexts (what : String) (actual expected : List String) : Option String :=
  reasonUnless (actual == expected)
    s!"{what} mismatch\n  expected: {quotedList expected}\n  actual:   {quotedList actual}"

/-- Checks one block, known by its place among all. Only interactive blocks have a state and a source. -/
def checkBlock (place : Nat) (block : Block) (expected : ExpectedBlock) : Option String :=
  firstReason [
    reasonUnless (block.id == expected.id && block.type.name == expected.type)
      (s!"block[{place}]: expected {expected.type} `{expected.id}`, "
        ++ s!"got {block.type.name} `{block.id}`"),
    whenExpected expected.line fun line =>
      reasonUnless (block.line == line) s!"block[{place}]: expected on line {line}, got line {block.line}",
    block.interactive?.bind fun b => firstReason [
      reasonUnless (expected.state.isNone || b.stateRef == expected.state)
        s!"block[{place}]: expected state {quotedOption expected.state}, got {quotedOption b.stateRef}",
      reasonUnless (expected.source.isNone || b.sourceRef == expected.source)
        s!"block[{place}]: expected source {quotedOption expected.source}, got {quotedOption b.sourceRef}"]]

/-- Checks all blocks (`check_blocks`). -/
def checkBlocks (actual : List Block) (expected : List ExpectedBlock) : Option String :=
  firstReason [
    reasonUnless (actual.length == expected.length)
      (s!"expected {expected.length} block(s), got {actual.length}: "
        ++ quotedList (actual.map Block.id)),
    firstReason ((actual.zip expected).mapIdx fun place (block, want) => checkBlock place block want)]

/-- Checks one warning, known by its place among all. -/
def checkWarning (place : Nat) (warning : ScheduleWarning) (expected : ExpectedWarning) : Option String :=
  firstReason [
    reasonUnless (hasPart warning.message expected.part)
      s!"warning[{place}]: expected message containing \"{expected.part}\", got: {warning.message}",
    whenExpected expected.line fun line =>
      reasonUnless (warning.line == line) s!"warning[{place}]: expected on line {line}, got line {warning.line}"]

/-- Checks all warnings (`check_warnings`). -/
def checkWarnings (actual : List ScheduleWarning) (expected : List ExpectedWarning) : Option String :=
  let shown := if actual.isEmpty then "    (none)" else "\n".intercalate (actual.map ("  - " ++ ·.display))
  firstReason [
    reasonUnless (actual.length == expected.length)
      s!"expected {expected.length} warning(s), got {actual.length}\n  actual warnings:\n{shown}",
    firstReason ((actual.zip expected).mapIdx fun place (warning, want) => checkWarning place warning want)]

def sorted (texts : List String) : List String := texts.mergeSort fun a b => !(b < a)

/-- Checks a page with its warnings (`check_page`). -/
def checkPage (e : Expectations) (compiled : Compiled) : Option String :=
  let page := compiled.page
  firstReason [
    whenExpected e.blocks (checkBlocks page.blockSet.blocks),
    whenExpected e.sources fun names => checkTexts "source" page.config.sources.names (sorted names),
    whenExpected e.tokens fun tokens => checkTexts "token" (page.schedules.map (·.raw)) tokens,
    whenExpected e.imperatives fun kinds =>
      checkTexts "imperative" (page.imperatives.map (·.action.kindName)) kinds,
    firstReason (e.htmlParts.map fun part =>
      reasonUnless (hasPart page.html part) s!"HTML does not contain {quoted part}"),
    firstReason (e.htmlAbsent.map fun part =>
      reasonUnless (!hasPart page.html part) s!"HTML unexpectedly contains {quoted part}"),
    whenExpected e.warnings (checkWarnings compiled.warnings)]

/-- Checks what compiling a document gave. -/
def check (e : Expectations) (result : Except CompileError Compiled) : Option String :=
  match e.error, result with
  | some _, .error error => e.checkError error
  | some part, .ok _ => some s!"expected error containing \"{part}\", but compilation succeeded"
  | none, .error error => some s!"unexpected compile error: {error.display}"
  | none, .ok compiled => e.checkPage compiled

end Expectations

end LivePage
