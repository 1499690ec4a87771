import Workgraph.Json.Decode
import Workgraph.Width

/-!
# Token usage

What the model's provider reports about one response, how reports add up, and the record that is
sent to a usage sink. Token counts are words of 64 bits.
-/

namespace Workgraph

open Json (Decoder fields?)

structure Usage where
  promptTokens : UInt64 := 0
  completionTokens : UInt64 := 0
  totalTokens : UInt64 := 0
  /-- In the provider's currency, when known. -/
  cost : Option Binary64 := none
  deriving DecidableEq, Inhabited

namespace Usage

/-- The sum of two costs, of which one may be unknown. -/
def addCost : Option Binary64 → Option Binary64 → Option Binary64
  | some a, some b => some (.ofFloat (a.toFloat + b.toFloat))
  | some a, none => some a
  | none, b => b

/-- The sum of two reports. -/
def add (a b : Usage) : Usage :=
  { promptTokens := a.promptTokens + b.promptTokens
    completionTokens := a.completionTokens + b.completionTokens
    totalTokens := a.totalTokens + b.totalTokens
    cost := addCost a.cost b.cost }

/-- A token count. -/
def decodeCount : Decoder UInt64 := fun s d =>
  (Decoder.natural Width.natural64 s d).map (·.toUInt64)

def encodeCount (n : UInt64) : Json := .ofNat n.toNat

def decode : Decoder Usage := fun s d => do
  let [prompt, completion, total, cost] ←
    fields? ["promptTokens", "completionTokens", "totalTokens", "cost"] d | none
  return {
    promptTokens := ← prompt.required decodeCount s
    completionTokens := ← completion.required decodeCount s
    totalTokens := ← total.required decodeCount s
    cost := ← cost.nullable .real s }

def members (u : Usage) : List (String × Json) :=
  [("promptTokens", encodeCount u.promptTokens),
    ("completionTokens", encodeCount u.completionTokens),
    ("totalTokens", encodeCount u.totalTokens), ("cost", .ofOption .ofReal u.cost)]

def encode (u : Usage) : Json := .ofMembers u.members

end Usage

/-- The usage of a model, as it is recorded. -/
structure UsageRecord where
  model : String
  usage : Usage
  deriving DecidableEq, Inhabited

namespace UsageRecord

def decode : Decoder UsageRecord := fun s d => do
  let [model, prompt, completion, total, cost] ←
    fields? ["model", "promptTokens", "completionTokens", "totalTokens", "cost"] d | none
  return {
    model := ← model.required .string s
    usage := {
      promptTokens := ← prompt.required Usage.decodeCount s
      completionTokens := ← completion.required Usage.decodeCount s
      totalTokens := ← total.required Usage.decodeCount s
      cost := ← cost.nullable .real s } }

def encode (r : UsageRecord) : Json := .ofMembers (("model", .string r.model) :: r.usage.members)

end UsageRecord

end Workgraph
