import LivePage.CommandLine.Basic
/-!
# Faults of command lines

Why a command line cannot be used, with what may help.
-/
namespace LivePage.CommandLine

inductive UsageError where
  | unexpected (argument : String) (similar : Option String) (tips : List String)
  | unknownCommand (name : String) (similar : List String)
  | noValue (option : String)
  | extraValue (value option : String)
  | repeated (option : String)
  | missing (arguments : List String)
  | noCommand (program : String) (commands : List String)
deriving DecidableEq, Repr

/-- What is wrong, and how to do it right if that is told. -/
structure UsageFault where
  error : UsageError
  usage : Option String := none
  hasHelp : Bool := true
deriving DecidableEq, Repr

namespace UsageError

def message : UsageError → String
  | unexpected argument _ _ => s!"unexpected argument '{argument}' found"
  | unknownCommand name _ => s!"unrecognized subcommand '{name}'"
  | noValue option => s!"a value is required for '{option}' but none was supplied"
  | extraValue value option => s!"unexpected value '{value}' for '{option}' found; no more were expected"
  | repeated option => s!"the argument '{option}' cannot be used multiple times"
  | missing arguments =>
    "the following required arguments were not provided:" ++ String.join (arguments.map ("\n  " ++ ·))
  | noCommand program commands =>
    let names := ", ".intercalate commands
    s!"'{program}' requires a subcommand but one was not provided\n  [subcommands: {names}]"

def tips : UsageError → List String
  | unexpected _ similar tips => (similar.map fun s => s!"a similar argument exists: '{s}'").toList ++ tips
  | unknownCommand _ [] => []
  | unknownCommand _ [name] => [s!"a similar subcommand exists: '{name}'"]
  | unknownCommand _ names =>
    let names := ", ".intercalate (names.map fun name => s!"'{name}'")
    [s!"some similar subcommands exist: {names}"]
  | _ => []

end UsageError

def UsageFault.display (f : UsageFault) : String :=
  let tips := f.error.tips
  s!"error: {f.error.message}"
    ++ (if tips.isEmpty then "" else "\n" ++ String.join (tips.map ("\n  tip: " ++ ·)))
    ++ (match f.usage with | some usage => s!"\n\nUsage: {usage}" | none => "")
    ++ (if f.hasHelp then "\n\nFor more information, try '--help'." else "") ++ "\n"

end LivePage.CommandLine
