import Workgraph.Json.Decode

/-!
# Issues

A structural problem of a graph, with a stable code and a message. Errors make a graph unfit to
run; warnings do not.
-/

namespace Workgraph

open Json (Decoder fields?)

inductive IssueLevel where
  | error
  | warning
  deriving DecidableEq, Inhabited

namespace IssueLevel

def name : IssueLevel → String
  | .error => "error"
  | .warning => "warning"

def table : List (String × IssueLevel) := [("error", .error), ("warning", .warning)]

def decode : Decoder IssueLevel := Decoder.choice table

def encode (l : IssueLevel) : Json := .string l.name

end IssueLevel

structure Issue where
  level : IssueLevel
  code : String
  message : String
  nodeId : Option String := none
  edgeId : Option String := none
  deriving DecidableEq, Inhabited

namespace Issue

def isError (i : Issue) : Bool := i.level = .error

/-- Whether some issue is an error. -/
def hasErrors (is : List Issue) : Bool := is.any isError

/-- An issue as one line. -/
def line (i : Issue) : String := i.level.name ++ " [" ++ i.code ++ "]: " ++ i.message

def decode : Decoder Issue := fun s d => do
  let [level, code, message, nodeId, edgeId] ←
    fields? ["level", "code", "message", "nodeId", "edgeId"] d | none
  return {
    level := ← level.required IssueLevel.decode s
    code := ← code.required .string s
    message := ← message.required .string s
    nodeId := ← nodeId.omittable .string s
    edgeId := ← edgeId.omittable .string s }

def encode (i : Issue) : Json :=
  .ofMembers ([("level", i.level.encode), ("code", .string i.code), ("message", .string i.message)]
    ++ Json.present "nodeId" .string i.nodeId ++ Json.present "edgeId" .string i.edgeId)

end Issue

end Workgraph
