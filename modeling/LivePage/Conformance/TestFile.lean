import LivePage.Compile.File
import LivePage.Conformance.Check
/-!
# Test files

A conformance test is a file with a TOML header between lines of three plus signs and a document after it. The document
may have a header of its own.
-/
namespace LivePage

open Text

def headerFence : List Char := ['+', '+', '+']

/-- A text without one line end at its start. -/
def dropOneLineEnd (cs : List Char) : List Char :=
  match cs with
  | '\n' :: rest | '\r' :: '\n' :: rest => rest
  | _ => cs

/-- The text before the first place where a fence starts a line that is not the first, and the text after it. -/
def splitAtFence? : List Char → Option (List Char × List Char)
  | [] => none
  | c :: cs =>
    match if c = '\n' then dropPrefix? headerFence cs else none with
    | some rest => some ([], rest)
    | none => (splitAtFence? cs).map fun (before, rest) => (c :: before, rest)

/-- The expectations and the document of a test, or why its header cannot be read (`parse_test_file`). -/
def splitTest (content : String) : Except String (Expectations × String) := do
  let cs := content.toList.dropWhile (· == '\uFEFF')
  let some opened := dropPrefix? headerFence cs | throw "missing opening +++ header"
  let some (header, rest) := splitAtFence? (dropOneLineEnd opened) | throw "missing closing +++ header"
  let header := String.ofList (dropEndWhile (· == '\r') header)
  match Toml.decode Expectations.decode header with
  | .ok expectations => return (expectations, String.ofList (dropOneLineEnd rest))
  | .error message => throw s!"TOML parse error: {message}"

inductive TestOutcome where
  | pass
  | fail (reason : String)
deriving DecidableEq, Repr

structure TestResult where
  path : String
  description : Option String
  outcome : TestOutcome
deriving DecidableEq, Repr

namespace TestResult

/-- What a test is called (`label`): its description, or else the name of its file. -/
def label (r : TestResult) : String := r.description.getD ((Path.stem? r.path).getD "?")

def reason? (r : TestResult) : Option String :=
  match r.outcome with
  | .pass => none
  | .fail reason => some reason

end TestResult

/-- Runs a test, unless its document has no answer (`run_single_test`). -/
def runTest (path : String) (content : Except FileFault String) : Option TestResult :=
  let failed (reason : String) : Option TestResult :=
    some { path, description := none, outcome := .fail reason }
  match content with
  | .error fault => failed s!"cannot read file: {fault.message}"
  | .ok content =>
    match splitTest content with
    | .error message => failed s!"header error: {message}"
    | .ok (expectations, document) =>
      let outcome (result : Except CompileError Compiled) : TestOutcome :=
        match expectations.check result with
        | none => .pass
        | some reason => .fail reason
      let result (r : Except CompileError Compiled) : Option TestResult :=
        some { path, description := expectations.description, outcome := outcome r }
      match compile document path {} with
      | .ok compiled => result (.ok compiled)
      | .error (.error e) => result (.error e)
      | .error .noScan => none

end LivePage
