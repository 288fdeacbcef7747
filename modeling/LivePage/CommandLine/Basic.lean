/-!
# Command lines

What a program accepts on its command line: commands, each with options and at most one positional argument, and the
texts that tell how to use them.
-/
namespace LivePage.CommandLine

/-- An option: a switch, or one with a value. -/
structure OptionSpec where
  long : String
  short : Option Char := none
  /-- What its value is called, if it takes one. -/
  valueName : Option String := none
  repeatable : Bool := false
  allowsEmpty : Bool := false
  help : String
deriving DecidableEq, Repr

/-- An argument that is known by its place. -/
structure PositionalSpec where
  name : String
  help : String
deriving DecidableEq, Repr

structure CommandSpec where
  name : String
  about : String
  positional : PositionalSpec
  options : List OptionSpec
deriving DecidableEq, Repr

/-- A program with commands. Its own options are also given before a command. -/
structure ProgramSpec where
  name : String
  about : String
  version : String
  options : List OptionSpec
  commands : List CommandSpec
deriving DecidableEq, Repr

def helpOption : OptionSpec := { long := "help", short := some 'h', help := "Print help" }

def versionOption : OptionSpec := { long := "version", short := some 'V', help := "Print version" }

/-- The name of the command that prints help, and what it is about. -/
def helpCommand : String × String := ("help", "Print this message or the help of the given subcommand(s)")

namespace OptionSpec

def display (o : OptionSpec) : String :=
  "--" ++ o.long ++ (match o.valueName with | some name => s!" <{name}>" | none => "")

def takesValue (o : OptionSpec) : Bool := o.valueName.isSome

end OptionSpec

def PositionalSpec.display (p : PositionalSpec) : String := s!"<{p.name}>"

def ProgramSpec.commandNames (p : ProgramSpec) : List String := p.commands.map (·.name) ++ [helpCommand.1]

/-! ## Usage -/

/-- How to use a program, where some of its options are given. -/
def ProgramSpec.usage (p : ProgramSpec) (used : List String) : String :=
  " ".intercalate (p.name :: (if used.isEmpty then ["[OPTIONS]"] else used) ++ ["<COMMAND>"])

/-- How to use a command of a program, where some of its options are given, or in general if none are listed. -/
def CommandSpec.usage (c : CommandSpec) (program : String) (used : List String) : String :=
  " ".intercalate ([program, c.name] ++ (if used.isEmpty then ["[OPTIONS]"] else used) ++ [c.positional.display])

/-- How to use a command with its options left out. -/
def CommandSpec.shortUsage (c : CommandSpec) (program : String) (used : List String) : String :=
  " ".intercalate ([program, c.name] ++ used ++ [c.positional.display])

/-! ## Help -/

/-- Rows of two columns, the second of which is aligned. -/
def columns (rows : List (String × String)) : String :=
  let width := ((rows.map (·.1.length)).max?).getD 0
  String.join (rows.map fun (left, right) =>
    "  " ++ left ++ String.ofList (List.replicate (width - left.length) ' ') ++ "  " ++ right ++ "\n")

def OptionSpec.row (o : OptionSpec) : String × String :=
  ((match o.short with | some c => s!"-{c}, " | none => "    ") ++ o.display, o.help)

def ProgramSpec.helpText (p : ProgramSpec) : String :=
  let commands := p.commands.map (fun c => (c.name, c.about)) ++ [helpCommand]
  let options := (p.options ++ [helpOption, versionOption]).map OptionSpec.row
  s!"{p.about}\n\nUsage: {p.usage []}\n\nCommands:\n" ++ columns commands ++ "\nOptions:\n" ++ columns options

def CommandSpec.helpText (c : CommandSpec) (program : String) : String :=
  s!"{c.about}\n\nUsage: {c.usage program []}\n\nArguments:\n"
    ++ columns [(c.positional.display, c.positional.help)]
    ++ "\nOptions:\n" ++ columns ((c.options ++ [helpOption]).map OptionSpec.row)

/-- The help text of the command that prints help. -/
def helpOfHelp (program : String) : String :=
  s!"{helpCommand.2}\n\nUsage: {program} help [COMMAND]...\n\nArguments:\n"
    ++ columns [("[COMMAND]...", "Print help for the subcommand(s)")]

end LivePage.CommandLine
