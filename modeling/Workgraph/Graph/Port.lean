import Workgraph.Graph.NodeType

/-!
# Ports

Edges attach to the ports of nodes. A port carries the control flow, a value or a tool.

* `PortKind.feeds` says which outputs may be connected to which inputs: an output on the control
  flow also carries the value that its node produced, so it may feed a data input;
* `findPort` is the one rule for what an edge end means: a named port must exist, and an edge end
  without a name means the only port, or the canonical one when there are several.
-/

namespace Workgraph

/-! ## 1. Kinds -/

inductive PortKind where
  | flow
  | data
  | tools
  deriving DecidableEq, Inhabited

namespace PortKind

def name : PortKind → String
  | .flow => "flow"
  | .data => "data"
  | .tools => "tools"

/-- The name of a kind in messages. -/
def title : PortKind → String
  | .flow => "Flow"
  | .data => "Data"
  | .tools => "Tools"

def all : List PortKind := [.flow, .data, .tools]

def table : List (String × PortKind) := all.map fun k => (k.name, k)

/-- Whether an output of the first kind may be connected to an input of the second. -/
def feeds : PortKind → PortKind → Bool
  | .tools, .tools => true
  | .tools, _ => false
  | _, .tools => false
  | .flow, _ => true
  | .data, .data => true
  | .data, .flow => false

def decode : Json.Decoder PortKind := Json.Decoder.choice table

def encode (k : PortKind) : Json := .string k.name

end PortKind

/-! ## 2. Ports -/

structure Port where
  /-- Unique among the inputs, or among the outputs, of a node. -/
  id : String
  label : String
  kind : PortKind
  /-- Whether an input must be connected. -/
  required : Bool
  /-- Whether several edges may be connected. -/
  multiple : Bool
  deriving DecidableEq, Inhabited

namespace Port

/-- A port that must be connected. -/
def needed (id label : String) (kind : PortKind) : Port :=
  { id, label, kind, required := true, multiple := false }

/-- A port that may be left unconnected. -/
def optional (id label : String) (kind : PortKind) : Port :=
  { id, label, kind, required := false, multiple := false }

def decode : Json.Decoder Port := fun s d => do
  let [id, label, kind, required, multiple] ←
    Json.fields? ["id", "label", "kind", "required", "multiple"] d | none
  return {
    id := ← id.required .string s
    label := ← label.required .string s
    kind := ← kind.required PortKind.decode s
    required := ← required.required .bool s
    multiple := ← multiple.required .bool s }

def encode (p : Port) : Json := .ofMembers
  [("id", .string p.id), ("label", .string p.label), ("kind", p.kind.encode),
    ("required", .bool p.required), ("multiple", .bool p.multiple)]

end Port

/-! ## 3. What an edge end means -/

/-- The first port with an id, and its position. -/
def portWithId? (id : String) (ports : List Port) : Option (Nat × Port) :=
  (ports.findIdx? fun p => p.id = id).bind fun i => ports[i]?.map fun p => (i, p)

/-- The port that an edge end refers to, and its position. -/
def findPort (ports : List Port) (explicit : Option String) (canonical : String) :
    Option (Nat × Port) :=
  match explicit, ports with
  | some id, ports => portWithId? id ports
  | none, [only] => some (0, only)
  | none, ports => portWithId? canonical ports

/-! ## 4. Reserved ids -/

namespace PortId

/-- The input meant by an edge that names none. -/
def input : String := "in"

/-- The output meant by an edge that names none. -/
def output : String := "out"

/-- Where tool providers are wired into a consumer, and their own output. -/
def tools : String := "tools"

/-- The input that turns a tool provider on or off. -/
def enable : String := "enable"

/-- The data input of a node that writes a variable. -/
def value : String := "value"

def thenBranch : String := "then"

def elseBranch : String := "else"

/-- The beginning of the ids of the outputs of a switch. -/
def caseStem : String := "case-"

/-- The output of a switch for one case. -/
def case (i : Nat) : String := caseStem ++ toString i

end PortId

end Workgraph
