/-!
# What the command line offers

Each command has a signature: whether it takes a graph, and its options. The arguments are read by
it, and the pages of help are written from it.

* `Signature.commands` lists the commands, in the order in which they are described;
* `HelpTopic.page` is the text that describes a command, or the program as a whole. The
  descriptions in a section of a page all begin in one column (`inColumns`), two blanks after the
  longest of the names that they describe.
-/

namespace Workgraph

/-! ## 1. Signatures -/

/-- An option, which is written with two dashes. -/
structure CommandOption where
  name : String
  /-- What the value of the option is called, if it takes one. -/
  value : Option String := none
  purpose : String
  deriving DecidableEq

structure Signature where
  name : String
  purpose : String
  takesGraph : Bool := false
  options : List CommandOption
  deriving DecidableEq

namespace Signature

/-- The option that every command takes, also before its name. -/
def configOption : CommandOption :=
  { name := "--config", value := some "CONFIG", purpose := "Engine configuration file (JSON)" }

def validate : Signature :=
  { name := "validate", purpose := "Check a graph for structural problems", takesGraph := true
    options := [configOption] }

def plan : Signature :=
  { name := "plan", purpose := "Preview the nodes a run may visit", takesGraph := true
    options := [configOption] }

def run : Signature :=
  { name := "run", purpose := "Execute a graph", takesGraph := true
    options :=
      [configOption,
        { name := "--payload", value := some "PAYLOAD", purpose := "Initial payload (JSON)" },
        { name := "--vars", value := some "VARS", purpose := "Initial variables (JSON object)" },
        { name := "--events", purpose := "Print run events to stderr as JSON lines" }] }

def nodes : Signature :=
  { name := "nodes", purpose := "List node types"
    options :=
      [{ name := "--all", purpose := "Include types that cannot be created from the palette" },
        configOption] }

def commands : List Signature := [validate, plan, run, nodes]

/-- The signature of the command with a name. -/
def named? (name : String) : Option Signature := commands.find? fun s => s.name = name

def option? (s : Signature) (name : String) : Option CommandOption :=
  s.options.find? fun o => o.name = name

end Signature

/-! ## 2. Pages of help -/

/-- What a page of help is about. -/
inductive HelpTopic where
  | program
  | command (s : Signature)
  /-- The command that shows these pages. -/
  | help
  deriving DecidableEq

/-- Names and their descriptions, the descriptions below each other. -/
def inColumns (entries : List (String × String)) : List String :=
  let width := (entries.map (·.1.length)).foldl max 0
  entries.map fun (name, description) =>
    "  " ++ name ++ String.ofList (List.replicate (width - name.length + 2) ' ') ++ description

namespace HelpTopic

def helpPurpose : String := "Print this message or the help of the given subcommand(s)"

def purpose : HelpTopic → String
  | program => "Validate, preview and run agent workflow graphs"
  | command s => s.purpose
  | help => helpPurpose

/-- How the arguments of a command are written. -/
def usage : HelpTopic → String
  | program => "agentflow [OPTIONS] <COMMAND>"
  | command s => "agentflow " ++ s.name ++ " [OPTIONS]" ++ (if s.takesGraph then " <GRAPH>" else "")
  | help => "agentflow help [COMMAND]..."

/-- An option with its description. -/
def optionEntry (o : CommandOption) : String × String :=
  let value := (o.value.map fun v => " <" ++ v ++ ">").getD ""
  ("    " ++ o.name ++ value, o.purpose)

def helpEntry : String × String := ("-h, --help", "Print help")

/-- The sections of a page: a title, and names with their descriptions. -/
def sections : HelpTopic → List (String × List (String × String))
  | program =>
    [("Commands", Signature.commands.map (fun s => (s.name, s.purpose)) ++ [("help", helpPurpose)]),
      ("Options",
        [optionEntry Signature.configOption, helpEntry, ("-V, --version", "Print version")])]
  | command s =>
    (if s.takesGraph then [("Arguments", [("<GRAPH>", "")])] else []) ++
      [("Options", s.options.map optionEntry ++ [helpEntry])]
  | help => [("Arguments", [("[COMMAND]...", "Print help for the subcommand(s)")])]

def page (t : HelpTopic) : String :=
  let opening := [t.purpose, "", "Usage: " ++ t.usage]
  let others := t.sections.flatMap fun (title, entries) => ["", title ++ ":"] ++ inColumns entries
  "\n".intercalate (opening ++ others) ++ "\n"

/-- The page that the arguments of the `help` command ask for. -/
def ofArguments? : List String → Option HelpTopic
  | [] => some program
  | ["help"] => some help
  | [name] => (Signature.named? name).map command
  | _ => none

end HelpTopic

end Workgraph
