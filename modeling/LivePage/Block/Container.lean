import LivePage.Block.Basic
/-!
# Containers

The markup that the runtime attaches a live block to. An interactive block is replaced by a placeholder; server
and student code stay, inside a container. All that comes from the author stands in attribute values with every
special character escaped.
-/
namespace LivePage

namespace Block

def escapeChar : Char → List Char
  | '&' => "&amp;".toList
  | '<' => "&lt;".toList
  | '>' => "&gt;".toList
  | '"' => "&quot;".toList
  | '\'' => "&#39;".toList
  | c => [c]

/-- An attribute value (`escape_attr`). -/
def escapeValue (s : String) : String := String.ofList (s.toList.flatMap escapeChar)

def attributeText (name value : String) : String := " " ++ name ++ "=\"" ++ escapeValue value ++ "\""

/-- The attributes that every container has (`common_attrs`). -/
def commonAttributes (b : Block) : String :=
  " data-livedoc-block" ++ attributeText "data-block-id" b.id ++ attributeText "data-block-type" b.type.name
    ++ attributeText "data-language" b.language

/-- An attribute for a reference, if there is one. -/
def referenceAttribute (name : String) : Option String → String
  | some value => attributeText name value
  | none => ""

/-- The opening tag of an interactive block's placeholder. -/
def placeholderTag (b : Block) : String :=
  let references := match b with
    | interactive i =>
      referenceAttribute "data-state-ref" i.stateRef ++ referenceAttribute "data-source-ref" i.sourceRef
    | _ => ""
  "<div class=\"livedoc-interactive-block\"" ++ b.commonAttributes ++ references ++ " data-interactive-content>"

/-- What stands in place of an interactive block (`placeholder`). -/
def placeholder (b : Block) : String :=
  b.placeholderTag ++ "<div class=\"loading\">Connecting...</div></div>\n"

/-- The opening tag of the container around code. -/
def wrapperTag (b : Block) : String :=
  let run := match b with
    | wasm w => attributeText "data-show-run" (toString w.showRunButton)
    | _ => ""
  "<div class=\"livedoc-code-block livedoc-" ++ b.type.name ++ "-block\"" ++ b.commonAttributes
    ++ attributeText "data-readonly" (toString b.isReadonly)
    ++ attributeText "data-editable" (toString b.isEditable) ++ run ++ ">"

/-- What opens the container around code (`wrapper_open`). -/
def wrapperOpen (b : Block) : String := b.wrapperTag ++ "\n"

def wrapperClose : String := "</div>\n"

end Block

end LivePage
