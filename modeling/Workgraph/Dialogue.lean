import Workgraph.Role
import Workgraph.Width

/-!
# Context and conversation

* A `Fragment` is a message that a node adds to the context of the model; fragments of higher
  priority stand first.
* A `Turn` is one message of the conversation so far.
-/

namespace Workgraph

open Json (Decoder fields?)

structure Fragment where
  role : Role
  text : String
  /-- Higher priorities are placed first. -/
  priority : Int
  /-- The node that added it. -/
  sourceNodeId : Option String := none
  /-- Whether it was found by a tool rather than written by an author. -/
  synthesized : Bool := false
  deriving DecidableEq, Inhabited

namespace Fragment

/-- Puts a fragment behind all fragments of the same or a higher priority that come first. -/
def insert (f : Fragment) : List Fragment → List Fragment
  | [] => [f]
  | g :: gs => if g.priority < f.priority then f :: g :: gs else g :: insert f gs

def decode : Decoder Fragment := fun s d => do
  let [role, text, priority, sourceNodeId, synthesized] ←
    fields? ["role", "text", "priority", "sourceNodeId", "synthesized"] d | none
  return {
    role := ← role.required Role.decode s
    text := ← text.required .string s
    priority := ← priority.required (.integer Width.least32 Width.greatest32) s
    sourceNodeId := ← sourceNodeId.omittable .string s
    synthesized := ← synthesized.getD .bool false s }

def encode (f : Fragment) : Json :=
  .ofMembers ([("role", f.role.encode), ("text", .string f.text), ("priority", .ofInt f.priority),
    ("synthesized", .bool f.synthesized)] ++ Json.present "sourceNodeId" .string f.sourceNodeId)

end Fragment

structure Turn where
  role : Role
  content : String
  name : Option String := none
  /-- The tool call that a tool message answers. -/
  toolCallId : Option String := none
  deriving DecidableEq, Inhabited

namespace Turn

def decode : Decoder Turn := fun s d => do
  let [role, content, name, toolCallId] ← fields? ["role", "content", "name", "toolCallId"] d | none
  return {
    role := ← role.required Role.decode s
    content := ← content.required .string s
    name := ← name.omittable .string s
    toolCallId := ← toolCallId.omittable .string s }

def encode (t : Turn) : Json :=
  .ofMembers ([("role", t.role.encode), ("content", .string t.content)]
    ++ Json.present "name" .string t.name ++ Json.present "toolCallId" .string t.toolCallId)

end Turn

end Workgraph
