import Workgraph.CommandLine.Signature
import Workgraph.Graph.Codec
import Workgraph.Graph.Plan
import Workgraph.Run.Chain

/-!
# The command line

Four commands on graphs in files: `validate` lists the problems of a graph, `plan` the nodes that a
run may visit, `run` executes a graph, and `nodes` lists the types of nodes. `--version` asks for
the version, `--help` and the command `help` for a page of help.

* `Invocation.ofArguments?` reads the arguments from left to right, up to the first that is wrong
  or that asks for help or the version; options may be written `--name value` or `--name=value`, a
  value must not begin with a dash in the first form, and an option may occur once;
* `Invocation.answer` is what a command prints and the code it exits with. It is given a reader of
  files and the id of the run, and does nothing else to the world; `run` has no model and no
  knowledge store.
-/

namespace Workgraph

/-! ## 1. Arguments -/

inductive Command where
  | validate (graph : String)
  | plan (graph : String)
  | run (graph : String) (payload vars : Option String) (events : Bool)
  | nodes (all : Bool)
  | help (topic : HelpTopic)
  | version
  deriving DecidableEq

structure Invocation where
  command : Command
  /-- The file with the settings. -/
  config : Option String := none
  deriving DecidableEq

namespace Invocation

/-- What was found among the arguments: options with their values, and all others. -/
structure Found where
  options : List (String × String) := []
  others : List String := []
  asksHelp : Bool := false

/-- The value of an option. -/
def Found.value? (f : Found) (name : String) : Option String :=
  (f.options.find? fun e => e.1 = name).map (·.2)

/-- Adds an option that was not there; the name of a file must not be empty. -/
def Found.withOption? (f : Found) (name value : String) : Option Found :=
  if (f.value? name).isSome || name == "--config" && value.isEmpty then none
  else some { f with options := (name, value) :: f.options }

/-- Adds an argument that is no option: the graph, if the command takes one. -/
def Found.withOther? (f : Found) (s : Signature) (arg : String) : Option Found :=
  if s.takesGraph && f.others.isEmpty && !arg.isEmpty then some { f with others := [arg] } else none

/-- An option and its value written as one argument. -/
def splitValue (arg : String) : String × Option String :=
  match Text.before? ['='] arg.toList with
  | some name => (String.ofList name, some (String.ofList (arg.toList.drop (name.length + 1))))
  | none => (arg, none)

/-- Whether an argument is written as an option. -/
def isOption (arg : String) : Bool := arg.startsWith "-" && arg != "-"

/-- Whether an argument asks for help. -/
def asksHelp (arg : String) : Bool := arg == "--help" || arg.startsWith "-h"

/-- Whether an argument asks for the version. -/
def asksVersion (arg : String) : Bool := arg == "--version" || arg.startsWith "-V"

/-- Sorts the arguments of a command; nothing when an option is unknown, repeated or without its
value, or when there are too many other arguments. All after `--` are others, and all after the
question for help count for nothing. -/
def sort? (s : Signature) : List String → Found → Option Found
  | [], found => some found
  | "--" :: args, found => args.foldlM (fun found arg => found.withOther? s arg) found
  | arg :: args, found =>
    if asksHelp arg then some { found with asksHelp := true }
    else if isOption arg then do
      let (name, value) := splitValue arg
      let o ← s.option? name
      match o.value.isSome, value, args with
      | true, some v, args => sort? s args (← found.withOption? name v)
      | true, none, v :: args =>
        if isOption v then none else sort? s args (← found.withOption? name v)
      | false, none, args => sort? s args (← found.withOption? name "")
      | _, _, _ => none
    else do sort? s args (← found.withOther? s arg)

/-- The arguments before the command: `--config` with its value. The command follows, or a question
for help or the version, which ends the arguments. -/
def leading? : List String → Found → Option (Found × List String)
  | [], _ => none
  | arg :: args, found =>
    if asksHelp arg || asksVersion arg then some (found, [arg])
    else if isOption arg then do
      match splitValue arg, args with
      | ("--config", some v), args => leading? args (← found.withOption? "--config" v)
      | ("--config", none), v :: args =>
        if isOption v then none else leading? args (← found.withOption? "--config" v)
      | _, _ => none
    else some (found, arg :: args)

/-- The command with a signature, from what was found among its arguments. -/
def command? (s : Signature) (f : Found) : Option Command :=
  if f.asksHelp then some (.help (.command s))
  else match s.name, f.others with
    | "validate", [graph] => some (.validate graph)
    | "plan", [graph] => some (.plan graph)
    | "run", [graph] =>
      some (.run graph (f.value? "--payload") (f.value? "--vars") (f.value? "--events").isSome)
    | "nodes", [] => some (.nodes (f.value? "--all").isSome)
    | _, _ => none

/-- The files that a command reads. -/
def files (i : Invocation) : List String :=
  match i.command with
  | .validate graph | .plan graph => [graph]
  | .run graph _ _ _ => graph :: i.config.toList
  | .nodes _ | .help _ | .version => []

/-- What the arguments ask for; nothing when they are used wrongly. -/
def ofArguments? (args : List String) : Option Invocation := do
  let (before, rest) ← leading? args {}
  match rest with
  | [] => none
  | name :: rest =>
    if asksHelp name then return { command := .help .program }
    else if asksVersion name then return { command := .version }
    else if name = "help" then return { command := .help (← HelpTopic.ofArguments? rest) }
    else
      let s ← Signature.named? name
      let found ← sort? s rest {}
      return { command := ← command? s found
               config := (found.value? "--config").or (before.value? "--config") }

end Invocation

/-! ## 2. Answers -/

/-- What a command prints and the code it exits with. -/
structure Answer where
  code : Nat
  out : String := ""
  err : List String := []
  deriving DecidableEq

/-- Why a command could not do its work. -/
inductive CommandFault where
  | unreadable (path reason : String)
  | badJson (what : String)
  | engine (f : Fault)
  deriving DecidableEq

def CommandFault.message : CommandFault → String
  | .unreadable path reason => "failed to read " ++ path ++ ": " ++ reason
  | .badJson what => "invalid JSON for " ++ what
  | .engine f => f.message

namespace Invocation

/-- Reads a file, or says why it cannot be read. -/
abbrev FileReader := String → Except String String

def loadGraph (read : FileReader) (path : String) : Except CommandFault Graph :=
  match read path with
  | .error reason => .error (.unreadable path reason)
  | .ok text =>
    match Graph.ofText? text with
    | some g => .ok g
    | none => .error (.badJson path)

def loadSettings (read : FileReader) : Option String → Except CommandFault Settings
  | none => .ok {}
  | some path =>
    match read path with
    | .error reason => .error (.engine (.unreadableFile reason))
    | .ok text =>
      match (Json.Document.ofText? text).bind (Settings.decode .written) with
      | some s => .ok s
      | none => .error (.engine .badDocument)

/-- The value of an argument; null when it was not given. -/
def argumentValue (name : String) : Option String → Except CommandFault Json
  | none => .ok .null
  | some text =>
    match Json.ofText? text with
    | some v => .ok v
    | none => .error (.badJson name)

/-- A host without services that keeps the events, the latest first. -/
def listener : Host (List RunEvent) where
  cancelled _ := false
  deliver := List.cons
  interrupts events := (false, events)
  lapse events := events
  draw _ events := (0, events)

/-- The code that a run exits with. -/
def outcomeCode : RunOutcome → Nat
  | .completed _ => 0
  | .failed _ _ => 1
  | .cancelled => 130

/-- A value on lines of its own. -/
def printed (v : Json) : String := v.pretty ++ "\n"

def answerRun (read : FileReader) (executionId graph : String) (config payload vars : Option String)
    (events : Bool) : Except CommandFault Answer := do
  let g ← loadGraph read graph
  let settings ← loadSettings read config
  let payload ← argumentValue "--payload" payload
  let vars ← argumentValue "--vars" vars
  let frame : Frame (List RunEvent) :=
    { graph := g, engine := .limited settings.script, settings, host := listener, executionId }
  let state : RunState := { payload }
  match runGraph frame (state.replaceVars vars) [] with
  | .error f => throw (.engine f)
  | .ok (result, log) =>
    return {
      code := outcomeCode result.outcome
      out := printed result.encode
      err := if events then log.reverse.map fun e => e.encode.compact else [] }

/-- The descriptions of some definitions. -/
def describeAll (ds : List Definition) : Json :=
  .ofList (fun d => (d.describe (.initial d.type)).encode) ds

def tryAnswer (read : FileReader) (executionId : String) (i : Invocation) :
    Except CommandFault Answer :=
  match i.command with
  | .validate graph => do
    let issues := (← loadGraph read graph).issues
    return { code := if Issue.hasErrors issues then 1 else 0
             out := printed (.ofList Issue.encode issues) }
  | .plan graph => do return { code := 0, out := printed (← loadGraph read graph).plan.encode }
  | .run graph payload vars events =>
    answerRun read executionId graph i.config payload vars events
  | .nodes all =>
    .ok { code := 0
          out := printed
            (describeAll (if all then Definition.catalogue else Definition.creatableByLabel)) }
  | .help topic => .ok { code := 0, out := topic.page }
  | .version => .ok { code := 0, out := "agentflow 0.1.0\n" }

/-- What a command prints and the code it exits with. -/
def answer (read : FileReader) (executionId : String) (i : Invocation) : Answer :=
  match tryAnswer read executionId i with
  | .ok a => a
  | .error f => { code := 1, err := ["error: " ++ f.message] }

end Invocation

/-- The code for arguments that are used wrongly. -/
def Answer.misuse : Answer :=
  { code := 2
    err := ["usage: [--config FILE] validate GRAPH | plan GRAPH | nodes [--all]",
      "       | run GRAPH [--payload JSON] [--vars JSON] [--events]"] }

end Workgraph
