import LivePage.Conformance.TestFile
/-!
# Suites

A directory of conformance tests. The directories inside it are categories, and each can be run by itself. A report
has a line for each test and tells at its end why tests failed.
-/
namespace LivePage

open Text

/-- The paths of tests by category. -/
abbrev Suite := Dictionary (List String)

/-- What a command leaves behind. -/
structure CommandResult where
  exitCode : Nat := 0
  output : String := ""
  messages : String := ""
deriving DecidableEq, Repr

/-- The deepest nesting of directories that is searched. -/
def maxNesting : Nat := 4096

namespace Suite

def add (suite : Suite) (category path : String) : Suite :=
  Dictionary.insert category ((suite.find? category).getD [] ++ [path]) suite

/-- Adds the tests in a directory whose category is known (`collect_tests`); categories are separated by slashes. -/
def collectFrom {m : Type → Type} [Monad m] (files : Files m) : Nat → Suite → String → String → m Suite
  | 0, suite, _, _ => return suite
  | fuel + 1, suite, directory, category => do
    (← files.entries directory).foldlM (fun suite name => do
      let path := Path.join directory name
      if ← files.isDirectory path then
        let name := String.ofList (name.toList.map fun c => if c = '\\' then '/' else c)
        collectFrom files fuel suite path (if category.isEmpty then name else s!"{category}/{name}")
      else if name.endsWith ".test.md" then return suite.add category path
      else return suite) suite

/-- The tests in a directory, in order of their paths (`discover_categorized`). -/
def discover {m : Type → Type} [Monad m] (files : Files m) (root : String) : m Suite := do
  let suite ← collectFrom files maxNesting [] root ""
  return suite.map fun (category, paths) => (category, Expectations.sorted paths)

/-- How a category is shown (`category_label`); the directory itself has no name. -/
def categoryLabel (category : String) : String := if category.isEmpty then "(root)" else category

/-- Whether a category is the wanted one or inside it. -/
def isWithin (category wanted : String) : Bool := category == wanted || category.startsWith (wanted ++ "/")

/-- The wanted categories, and a warning for each of them that does not exist (`filter_categories`). -/
def select (suite : Suite) (requested : List String) : Suite × List String :=
  let wanted := requested.map fun name => String.ofList (trimWhile (· == '/') name.toList)
  let available := ", ".intercalate (suite.names.map categoryLabel)
  let unknown := wanted.filter fun name => !suite.any fun (category, _) => isWithin category name
  (suite.filter fun (category, _) => wanted.any (isWithin category),
    unknown.map fun name => s!"warning: category '{name}' not found (available: {available})")

end Suite

/-! ## Reports -/

def lineText (lines : List String) : String := String.join (lines.map (· ++ "\n"))

def paint (colored : Bool) (code text : String) : String :=
  if colored then s!"\x1b[{code}m{text}\x1b[0m" else text

def resultLine (colored : Bool) (r : TestResult) : String :=
  let word := match r.outcome with
    | .pass => paint colored "32" "PASS"
    | .fail _ => paint colored "31" "FAIL"
  s!"  {word}  {r.label}"

def summaryLines (colored : Bool) (results : List TestResult) : List String :=
  let failures := results.filterMap fun r => r.reason?.map fun reason => (r.path, reason)
  let passed := results.length - failures.length
  let details := failures.flatMap fun (path, reason) =>
    ["", s!"  --- {path} ---"] ++ (shownLines reason.toList).map fun line => "  " ++ String.ofList line
  if failures.isEmpty then
    let word := paint colored "32" "ok"
    ["", s!"test result: {word}. {passed} passed, 0 failed"]
  else
    let word := paint colored "31" "FAILED"
    ["", "failures:"] ++ details
      ++ ["", s!"test result: {word}. {passed} passed, {failures.length} failed (of {results.length})"]

def listCategories {m : Type → Type} [Monad m] (files : Files m) (path : String) : m CommandResult := do
  if ← files.isFile path then return { messages := lineText ["(single file, no categories)"] }
  let suite ← Suite.discover files path
  if suite.isEmpty then return { messages := lineText [s!"no .test.md files found in {path}"] }
  let lines := suite.map fun (category, paths) =>
    s!"  {Suite.categoryLabel category} ({paths.length} tests)"
  return { messages := lineText ("available categories:" :: lines) }

/-- Runs tests by category and reports on them (`report`). -/
def runSuite {m : Type → Type} [Monad m] (files : Files m) (colored showCategories : Bool) (before : List String)
    (suite : Suite) : m CommandResult := do
  let groups : List (String × List (Option TestResult)) ← suite.mapM fun (category, paths) => do
    return (category, ← paths.mapM fun path => return runTest path (← files.read path))
  match groups.mapM fun (category, results) => (results.mapM id).map fun results => (category, results) with
  | none => return { exitCode := 101 }
  | some groups =>
    let lines := groups.flatMap fun (category, results) =>
      (if showCategories then ["", paint colored "1" (Suite.categoryLabel category)] else [])
        ++ results.map (resultLine colored)
    let results := groups.flatMap (·.2)
    return { exitCode := if results.any (·.reason?.isSome) then 1 else 0
             messages := lineText (before ++ lines ++ summaryLines colored results) }

/-- Runs the test in a file, or the tests in a directory (`run_tests`); if categories are given, only theirs. -/
def runTests {m : Type → Type} [Monad m] (files : Files m) (path : String) (colored : Bool)
    (categories : List String) : m CommandResult := do
  if ← files.isFile path then return ← runSuite files colored false [] [("", [path])]
  let suite ← Suite.discover files path
  if suite.isEmpty then
    return { exitCode := 1, messages := lineText [s!"no .test.md files found in {path}"] }
  let (selected, warnings) := if categories.isEmpty then (suite, []) else suite.select categories
  if selected.isEmpty then
    return { exitCode := 1, messages := lineText (warnings ++ ["no matching categories found"]) }
  runSuite files colored true warnings selected

end LivePage
