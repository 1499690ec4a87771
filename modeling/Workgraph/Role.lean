import Workgraph.Json.Decode

/-!
# Who speaks

The role of a message to or from the model.
-/

namespace Workgraph

inductive Role where
  | system
  | user
  | assistant
  | tool
  deriving DecidableEq, Inhabited

namespace Role

def name : Role → String
  | .system => "system"
  | .user => "user"
  | .assistant => "assistant"
  | .tool => "tool"

def all : List Role := [.system, .user, .assistant, .tool]

def table : List (String × Role) := all.map fun r => (r.name, r)

def decode : Json.Decoder Role := Json.Decoder.choice table

def encode (r : Role) : Json := .string r.name

end Role

end Workgraph
