import LivePage.CommandLine.Fault
import LivePage.CommandLine.Similarity
import LivePage.Text.Basic
/-!
# Reading command lines

Arguments are read from left to right. The first thing that is wrong ends it, and so does a request for help. After
two hyphens by themselves every argument is positional.
-/
namespace LivePage.CommandLine

/-- What a command line comes to if it is no request to do something. -/
inductive Stop where
  | answer (text : String)
  /-- The help text, where something was expected and nothing is given. -/
  | nothingGiven (text : String)
  | fault (f : UsageFault)

/-- What is given for a command. -/
structure Given where
  /-- Options as messages show them, in the order of their first use. -/
  used : List String := []
  switches : List String := []
  values : List (String × String) := []
  positional : Option String := none
deriving Repr

/-- What is being read: an option whose value may still come, or an argument that is not yet counted. -/
inductive Pending where
  | option (o : OptionSpec) (value : Option String)
  | positional (p : PositionalSpec) (value : String)

/-- What arguments are read for: the options that are known there, and how usage is told. -/
structure Scope where
  options : List OptionSpec
  positional : Option PositionalSpec
  commands : List (String × List String) := []
  usage : List String → String
  /-- The usage when an argument was given that is none of the options. -/
  fullUsage : String
  help : String
  version : Option String := none

/-- How far a command line has been read. -/
structure Progress where
  given : Given := {}
  pending : Option Pending := none
  waiting : Bool := false
  /-- Whether all further arguments are positional. -/
  onlyPositional : Bool := false

abbrev Outcome := Except Stop

def wrong {α : Type} (error : UsageError) (usage : Option String) : Outcome α := .error (.fault { error, usage })

namespace Scope

def count (s : Scope) (g : Given) (o : OptionSpec) (value : Option String) : Outcome Given := do
  let given := if o.takesValue then g.values.any (·.1 == o.long) else g.switches.contains o.long
  if given && !o.repeatable then wrong (.repeated o.display) (some s.fullUsage)
  let used := if g.used.contains o.display then g.used else g.used ++ [o.display]
  match value with
  | none => return { g with used, switches := g.switches ++ [o.long] }
  | some v =>
    if v.isEmpty && !o.allowsEmpty then wrong (.noValue o.display) none
    return { g with used, values := g.values ++ [(o.long, v)] }

/-- Counts what is pending. -/
def settle (s : Scope) (p : Progress) : Outcome Progress := do
  let p' := { p with pending := none, waiting := false }
  match p.pending with
  | none => return p'
  | some (.option o none) => wrong (.noValue o.display) none
  | some (.option o (some v)) => return { p' with given := ← s.count p.given o (some v) }
  | some (.positional spec v) =>
    if v.isEmpty then wrong (.noValue spec.display) none
    return { p' with given := { p.given with positional := some v } }

/-- What is given so far, whatever is pending and wrong. -/
def settled (s : Scope) (p : Progress) : Given :=
  match s.settle p with
  | .ok p => p.given
  | .error _ => p.given

/-- Whether anything is given, so that usage can be told with it. -/
def usageWith (s : Scope) (g : Given) : String :=
  if g.used.isEmpty && g.positional.isNone then s.fullUsage else s.usage g.used

/-- The tip for an argument that looks like an option and may be meant as a positional argument. -/
def asValueTip (s : Scope) (argument : String) : List String :=
  if s.positional.isSome then [s!"to pass '{argument}' as a value, use '-- {argument}'"] else []

/-- The option or command that may be meant by an unknown long option. -/
def similarOption (s : Scope) (name : String) (rest : List String) : Option (String × Option String) :=
  match (similarWords name (s.options.map (·.long))).getLast? with
  | some similar => some (similar, none)
  | none =>
    rest.findSome? fun word => do
      let options ← s.commands.lookup word
      let similar ← (similarWords name options).getLast?
      return (similar, some word)

def unknownLong {α : Type} (s : Scope) (p : Progress) (name : String) (rest : List String) : Outcome α :=
  let g := s.settled p
  let argument := "--" ++ name
  match s.similarOption name rest with
  | some (similar, none) =>
    let shown := ((s.options.find? (·.long == similar)).map OptionSpec.display).getD ("--" ++ similar)
    let used := if g.used.contains shown then g.used else g.used ++ [shown]
    wrong (.unexpected argument (some ("--" ++ similar)) []) (some (s.usage used))
  | some (similar, some command) =>
    wrong (.unexpected argument none [s!"'{command} --{similar}' exists"]) (some (s.usageWith g))
  | none => wrong (.unexpected argument none (s.asValueTip argument)) (some (s.usageWith g))

/-- Uses an option that has its value, or needs none. -/
def use (s : Scope) (p : Progress) (o : OptionSpec) (value : Option String) : Outcome Progress := do
  let p ← s.settle p
  if o = helpOption then throw (.answer s.help)
  if o = versionOption then throw (.answer (s.version.getD ""))
  return { p with given := ← s.count p.given o value }

/-- Starts an option whose value is the next argument. -/
def await (s : Scope) (p : Progress) (o : OptionSpec) : Outcome Progress := do
  let p ← s.settle p
  return { p with pending := some (.option o none), waiting := true }

/-- Reads a long option, whose value may follow an equals sign. -/
def readLong (s : Scope) (p : Progress) (argument : String) (rest : List String) : Outcome Progress := do
  let text := argument.toList.drop 2
  let (name, value) := match Text.splitFirst? '=' text with
    | some (name, value) => (String.ofList name, some (String.ofList value))
    | none => (String.ofList text, none)
  match s.options.find? (·.long == name), value with
  | none, _ => s.unknownLong p name rest
  | some o, some value =>
    if o.takesValue then s.use p o (some value)
    else
      let used := if p.given.used.contains o.display then p.given.used else p.given.used ++ [o.display]
      wrong (.extraValue value o.display) (some (s.usage used))
  | some o, none => if o.takesValue then s.await p o else s.use p o none

/-- Reads short options in one argument; the rest of it is the value of the first that takes one. -/
def readShort (s : Scope) (p : Progress) : List Char → Outcome Progress
  | [] => return p
  | c :: cs => do
    match s.options.find? (·.short == some c) with
    | none => wrong (.unexpected s!"-{c}" none (s.asValueTip s!"-{c}")) (some s.fullUsage)
    | some o =>
      if o.takesValue then
        match cs with
        | [] => s.await p o
        | '=' :: value => s.use p o (some (String.ofList value))
        | value => s.use p o (some (String.ofList value))
      else s.readShort (← s.use p o none) cs

def misplaced {α : Type} (s : Scope) (p : Progress) (argument : String) : Outcome α :=
  if s.commands.isEmpty then wrong (.unexpected argument none []) (some s.fullUsage)
  else if p.onlyPositional && s.commands.any (·.1 == argument) then
    wrong (.unexpected argument none [s!"subcommand '{argument}' exists; to use it, remove the '--' before it"])
      (some s.fullUsage)
  else wrong (.unknownCommand argument (similarWords argument (s.commands.map (·.1)))) (some s.fullUsage)

def readPositional (s : Scope) (p : Progress) (argument : String) : Outcome Progress := do
  let taken := p.given.positional.isSome || match p.pending with
    | some (.positional _ _) => true
    | _ => false
  match s.positional, taken with
  | some spec, false =>
    let p ← s.settle p
    return { p with pending := some (.positional spec argument) }
  | _, _ => s.misplaced p argument

/-- Reads arguments up to the end or to a command. -/
def read (s : Scope) : Progress → List String → Outcome (Given × Option (String × List String))
  | p, [] => do return ((← s.settle p).given, none)
  | p, argument :: rest => do
    if p.onlyPositional then s.read (← s.readPositional p argument) rest
    else if !p.waiting && s.commands.any (·.1 == argument) then
      return (s.settled p, some (argument, rest))
    else if argument = "--" then s.read { p with onlyPositional := true } rest
    else if argument.startsWith "--" then s.read (← s.readLong p argument rest) rest
    else if argument.startsWith "-" && argument ≠ "-" then
      s.read (← s.readShort p (argument.toList.drop 1)) rest
    else
      match p.waiting, p.pending with
      | true, some (.option o none) =>
        s.read { p with pending := some (.option o (some argument)), waiting := false } rest
      | _, _ => s.read (← s.readPositional p argument) rest

end Scope

/-! ## Programs -/

namespace ProgramSpec

/-- Where the arguments of a command are read. -/
def commandScope (p : ProgramSpec) (c : CommandSpec) : Scope :=
  { options := c.options ++ [helpOption]
    positional := some c.positional
    usage := c.shortUsage p.name
    fullUsage := c.usage p.name []
    help := c.helpText p.name }

/-- Where the arguments before a command are read. -/
def scope (p : ProgramSpec) : Scope :=
  { options := p.options ++ [helpOption, versionOption]
    positional := none
    commands := p.commands.map (fun c => (c.name, c.options.map (·.long) ++ [helpOption.long])) ++ [(helpCommand.1, [])]
    usage := p.usage
    fullUsage := p.usage []
    help := p.helpText
    version := some s!"{p.name} {p.version}\n" }

/-- What help on a list of commands comes to. -/
def helpOn (p : ProgramSpec) (names : List String) : Stop :=
  let unknown (name usage : String) : UsageFault := { error := .unknownCommand name [], usage := some usage }
  match names with
  | [] => .answer p.helpText
  | name :: rest =>
    match p.commands.find? (·.name == name), rest with
    | some c, [] => .answer (c.helpText p.name)
    | some c, extra :: _ => .fault (unknown extra (c.usage p.name []))
    | none, rest =>
      if name ≠ helpCommand.1 then .fault (unknown name (p.usage [])) else
      match rest with
      | [] => .answer (helpOfHelp p.name)
      | extra :: _ => .fault { unknown extra s!"{p.name} help [COMMAND]..." with hasHelp := false }

/-- Reads a command line: the command with what is given for it and before it. -/
def read (p : ProgramSpec) (arguments : List String) : Outcome (CommandSpec × Given × Given) := do
  let (before, command) ← p.scope.read {} arguments
  match command with
  | none =>
    if before.used.isEmpty then throw (.nothingGiven p.helpText)
    else wrong (.noCommand p.name p.commandNames) (some (p.usage []))
  | some (name, rest) =>
    match p.commands.find? (·.name == name) with
    | none => throw (p.helpOn rest)
    | some c =>
      let (given, _) ← (p.commandScope c).read {} rest
      if given.positional.isNone then
        wrong (.missing [c.positional.display]) (some (c.shortUsage p.name given.used))
      return (c, before, given)

end ProgramSpec

end LivePage.CommandLine
