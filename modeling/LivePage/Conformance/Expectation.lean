import LivePage.Toml.Decode
/-!
# Expectations

What the header of a conformance test says about the page that its document compiles to, or about the error that it
does not compile with.
-/
namespace LivePage

open Toml

structure ExpectedWarning where
  part : String := ""
  line : Option Nat := none
deriving DecidableEq, Repr

structure ExpectedBlock where
  id : String := ""
  type : String := ""
  line : Option Nat := none
  state : Option String := none
  source : Option String := none
deriving DecidableEq, Repr

/-- The expectations of a test (`TestConfig`); what is absent is not checked. -/
structure Expectations where
  description : Option String := none
  /-- A part of the message of the error that has to come. -/
  error : Option String := none
  errorKind : Option String := none
  errorLine : Option Nat := none
  hint : Option String := none
  blocks : Option (List ExpectedBlock) := none
  /-- The names of all sources, in any order. -/
  sources : Option (List String) := none
  tokens : Option (List String) := none
  /-- The kinds of all imperatives in their order. -/
  imperatives : Option (List String) := none
  htmlParts : List String := []
  htmlAbsent : List String := []
  warnings : Option (List ExpectedWarning) := none
deriving DecidableEq, Repr

def ExpectedWarning.decode : Node → Decoded ExpectedWarning :=
  asRecord "ExpectedWarning" [
    { key := "contains", required := true, read := fun w v => return { w with part := ← asText v } },
    { key := "line", read := fun w v => return { w with line := some (← asCount v) } }] {}

def ExpectedBlock.decode : Node → Decoded ExpectedBlock :=
  asRecord "ExpectedBlock" [
    { key := "id", required := true, read := fun b v => return { b with id := ← asText v } },
    { key := "type", required := true, read := fun b v => return { b with type := ← asText v } },
    { key := "line", read := fun b v => return { b with line := some (← asCount v) } },
    { key := "state", read := fun b v => return { b with state := some (← asText v) } },
    { key := "source", read := fun b v => return { b with source := some (← asText v) } }] {}

def Expectations.decode : Node → Decoded Expectations :=
  asRecord "TestConfig" [
    { key := "description", read := fun e v => return { e with description := some (← asText v) } },
    { key := "expect_error", read := fun e v => return { e with error := some (← asText v) } },
    { key := "expect_error_kind", read := fun e v => return { e with errorKind := some (← asText v) } },
    { key := "expect_error_line", read := fun e v => return { e with errorLine := some (← asCount v) } },
    { key := "expect_hint", read := fun e v => return { e with hint := some (← asText v) } },
    { key := "expect_blocks", read := fun e v => return { e with blocks := some (← asList ExpectedBlock.decode v) } },
    { key := "expect_sources", read := fun e v => return { e with sources := some (← asList asText v) } },
    { key := "expect_tokens", read := fun e v => return { e with tokens := some (← asList asText v) } },
    { key := "expect_imperatives", read := fun e v => return { e with imperatives := some (← asList asText v) } },
    { key := "expect_html_contains", read := fun e v => return { e with htmlParts := ← asList asText v } },
    { key := "expect_html_excludes", read := fun e v => return { e with htmlAbsent := ← asList asText v } },
    { key := "expect_warnings", read := fun e v =>
      return { e with warnings := some (← asList ExpectedWarning.decode v) } }] {}

end LivePage
