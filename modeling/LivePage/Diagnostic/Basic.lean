import LivePage.CompileError
/-!
# Diagnostics

A problem as shown on a terminal: how severe it is, a code, a message, marked ranges of source text, and notes.
-/
namespace LivePage

inductive Severity where
  | error
  | warning
deriving DecidableEq, Repr

/-- A marked range of a source text. -/
structure DiagnosticLabel where
  fileId : Nat
  range : Span
  message : String := ""
deriving DecidableEq, Repr

/-- A problem as shown on a terminal. -/
structure Diagnostic where
  severity : Severity
  code : Option String
  message : String
  labels : List DiagnosticLabel := []
  notes : List String := []
deriving DecidableEq, Repr

/-- The diagnostic for a compile error (`to_diagnostic`): its range is marked, hint and related place are notes. -/
def CompileError.toDiagnostic (e : CompileError) (fileId : Nat) : Diagnostic :=
  { severity := .error
    code := some e.kind.name
    message := e.message
    labels := (e.span.map fun r => { fileId, range := r }).toList
    notes := (e.hint.map fun h => "hint: " ++ h).toList ++ e.related.toList }

end LivePage
