import Workgraph.Json.Decode

/-!
# Types of nodes

The closed set of thirteen node types. A type is *pure* when its value is computed on demand and
never scheduled, and a *tool provider* when it only ever serves tools to a consumer.
-/

namespace Workgraph

inductive NodeType where
  /-- Entry point of a run. -/
  | start
  /-- Ends a run. -/
  | finish
  /-- Asks the model for the next turn. -/
  | completion
  /-- Two-way branch on a boolean script. -/
  | ifElse
  /-- Branch to one of several cases. -/
  | switch
  /-- A script over the value that is wired into it. -/
  | transform
  /-- Reads a variable. -/
  | getVariable
  /-- Writes a variable. -/
  | setVariable
  /-- Adds a fragment to the model's context. -/
  | contextMessage
  /-- Serves a tool that draws a choice. -/
  | randomizer
  /-- Serves a tool that searches a knowledge store. -/
  | retrieval
  /-- Serves a tool that reads attached documents. -/
  | documentReader
  /-- Serves a tool that reads and writes variables. -/
  | globalState
  deriving DecidableEq, Inhabited

namespace NodeType

/-- Every type, in the order in which the catalogue lists them. -/
def all : List NodeType :=
  [.start, .finish, .completion, .ifElse, .switch, .transform, .getVariable, .setVariable,
    .contextMessage, .randomizer, .retrieval, .documentReader, .globalState]

/-- The name of a type in documents and messages. -/
def name : NodeType → String
  | .start => "start"
  | .finish => "end"
  | .completion => "completion"
  | .ifElse => "if_else"
  | .switch => "switch"
  | .transform => "transform"
  | .getVariable => "get_variable"
  | .setVariable => "set_variable"
  | .contextMessage => "context_message"
  | .randomizer => "randomizer"
  | .retrieval => "retrieval"
  | .documentReader => "document_reader"
  | .globalState => "global_state"

/-- The types with their names. -/
def table : List (String × NodeType) := all.map fun t => (t.name, t)

/-- Whether the value of a node of this type is computed on demand. -/
def isPure : NodeType → Bool
  | .getVariable | .transform => true
  | _ => false

/-- Whether a node of this type only serves tools. -/
def isToolProvider : NodeType → Bool
  | .randomizer | .retrieval | .documentReader | .globalState => true
  | _ => false

def decode : Json.Decoder NodeType := Json.Decoder.choice table

def encode (t : NodeType) : Json := .string t.name

theorem mem_all (t : NodeType) : t ∈ all := by cases t <;> decide

theorem entry?_table (t : NodeType) : Json.Decoder.entry? table t.name = some t := by
  cases t <;> decide

end NodeType

end Workgraph
