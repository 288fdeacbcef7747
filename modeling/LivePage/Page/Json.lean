import LivePage.Json.Basic
import LivePage.Page
/-!
# Pages as JSON

A page and its parts as JSON values. The order of fields is part of the format. Settings of a source that are absent
are left out, and other absent values are null.
-/
namespace LivePage

open JsonValue

/-! ## Schedules -/

def twoDigits (n : Nat) : String := if n < 10 then s!"0{n}" else toString n

/-- A time of day as `HH:MM:SS`. -/
def TimeOfDay.display (t : TimeOfDay) : String :=
  s!"{twoDigits (t.seconds / 3600)}:{twoDigits (t.seconds / 60 % 60)}:{twoDigits (t.seconds % 60)}"

/-- A year with at least four digits, and with a sign outside of 0 to 9999. -/
def displayYear (year : Int) : String :=
  let digits := toString year.natAbs
  let padded := String.ofList (List.replicate (4 - digits.length) '0') ++ digits
  if 0 ≤ year ∧ year ≤ 9999 then padded else (if year < 0 then "-" else "+") ++ padded

/-- A date as `YYYY-MM-DD`. -/
def Date.display (d : Date) : String :=
  let c := d.civil
  s!"{displayYear c.year}-{twoDigits c.month}-{twoDigits c.day}"

def Weekday.name : Weekday → String
  | mon => "Mon"
  | tue => "Tue"
  | wed => "Wed"
  | thu => "Thu"
  | fri => "Fri"
  | sat => "Sat"
  | sun => "Sun"

def Schedule.toJson (s : Schedule) : JsonValue :=
  let clock (t : Option TimeOfDay) := ("time", optional (fun t => string t.display) t)
  match s with
  | daily t => object [("kind", string "daily"), clock t]
  | weekly days t =>
    object [("kind", string "weekly"), ("days", list (fun (d : Weekday) => string d.name) days), clock t]
  | monthly day t => object [("kind", string "monthly"), ("day", count day), clock t]
  | yearly month day t => object [("kind", string "yearly"), ("month", count month), ("day", count day), clock t]
  | relative day => object [("kind", string "relative"), ("day", string day.name)]
  | weekday day => object [("kind", string "weekday"), ("day", string day.name)]
  | date d => object [("kind", string "date"), ("date", string d.display)]
  | time t => object [("kind", string "time"), ("time", string t.display)]
  | offset minutes => object [("kind", string "offset"), ("minutes", number minutes)]

def ScheduleToken.toJson (t : ScheduleToken) : JsonValue :=
  object [("raw", string t.raw), ("line", count t.line), ("column", count t.column),
    ("schedule", t.schedule.toJson)]

def ImperativeAction.toJson : ImperativeAction → JsonValue
  | notify message => object [("kind", string "notify"), ("message", string message)]
  | runAction action args =>
    object [("kind", string "run-action"), ("action", string action), ("args", list string args)]

def Imperative.toJson (i : Imperative) : JsonValue :=
  object [("action", i.action.toJson), ("token", optional ScheduleToken.toJson i.token), ("line", count i.line),
    ("raw", string i.raw)]

/-! ## Blocks and sources -/

def Dictionary.toJson {α : Type} (f : α → JsonValue) (d : Dictionary α) : JsonValue :=
  object (d.map fun (name, value) => (name, f value))

/-- What is written of a block besides its type. -/
def Block.jsonFields (b : Block) : List (String × JsonValue) :=
  let own := match b with
    | server s => [("language", string s.language), ("content", string s.content)]
    | wasm w =>
      [("language", string w.language), ("default_code", string w.defaultCode),
        ("show_run_button", bool w.showRunButton)]
    | interactive i =>
      [("state_ref", optional string i.stateRef), ("source_ref", optional string i.sourceRef),
        ("content", string i.content)]
  ("id", string b.id) :: own
    ++ [("metadata", Dictionary.toJson string b.metadata),
      ("flags", list (fun (f : Flag) => string f.name) b.flags), ("line", count b.line)]

def Block.toJson (b : Block) : JsonValue := object (("type", string b.type.name) :: b.jsonFields)

/-- A source, without the settings that it leaves open. -/
def SourceConfig.toJson (s : SourceConfig) : JsonValue :=
  object ([("type", string s.type.name)]
    ++ field? "cmd" string s.cmd ++ field? "query" string s.query ++ field? "url" string s.url
    ++ field? "file" string s.file ++ field? "anchor" string s.anchor ++ field? "db" string s.db
    ++ field? "table" string s.table ++ field? "path" string s.path ++ field? "readonly" bool s.readonly
    ++ (if s.manual then [("manual", bool true)] else [])
    ++ (if s.options.isEmpty then [] else [("options", Dictionary.toJson string s.options)]))

/-! ## Pages -/

def PageConfig.toJson (c : PageConfig) : JsonValue :=
  object [("persist", string c.persist.name), ("multi_step", bool c.multiStep), ("step_count", count c.stepCount),
    ("sidebar", optional bool c.sidebar), ("sources", Dictionary.toJson SourceConfig.toJson c.sources)]

def Page.toJson (p : Page) : JsonValue :=
  object [("id", string p.id), ("title", optional string p.title), ("type", string p.type),
    ("source_file", string p.sourceFile), ("config", p.config.toJson), ("static_html", string p.html),
    ("markdown", string p.markdown), ("blocks", list Block.toJson p.blockSet.blocks),
    ("schedules", list ScheduleToken.toJson p.schedules), ("imperatives", list Imperative.toJson p.imperatives)]

end LivePage
