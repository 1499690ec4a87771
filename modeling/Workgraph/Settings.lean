import Workgraph.Json.Decode
import Workgraph.Width

/-!
# Settings of the engine

Limits and priorities that hold for a whole run. Every field has a default, so any part of a
document, or none, yields usable settings.
-/

namespace Workgraph

open Json (Decoder fields?)

/-- Bounds on every evaluation of a script. -/
structure ScriptLimits where
  /-- Loop iterations within one call. -/
  loopIterations : Nat := 100000
  /-- Nested calls. -/
  recursion : Nat := 256
  /-- Length of the source in bytes. -/
  sourceBytes : Nat := 65536
  deriving DecidableEq, Inhabited

structure CompletionSettings where
  /-- Rounds of tool calls for nodes that set no limit of their own. -/
  maxToolRounds : Nat := 4
  deriving DecidableEq, Inhabited

structure ContextSettings where
  /-- Priority of the guidance that providers add. -/
  guidancePriority : Int := -100
  /-- Priority of fragments that set none. -/
  fragmentPriority : Int := 0
  deriving DecidableEq, Inhabited

structure Settings where
  /-- Nodes that a run may execute. -/
  maxSteps : Nat := 1000
  script : ScriptLimits := {}
  completion : CompletionSettings := {}
  context : ContextSettings := {}
  deriving DecidableEq, Inhabited

/-! ## 1. As documents -/

namespace ScriptLimits

def decode : Decoder ScriptLimits := fun s d => do
  let [loops, recursion, bytes] ←
    fields? ["loopIterationLimit", "recursionLimit", "maxSourceBytes"] d | none
  let initial : ScriptLimits := {}
  return {
    loopIterations := ← loops.getD (.natural Width.natural64) initial.loopIterations s
    recursion := ← recursion.getD (.natural Width.natural64) initial.recursion s
    sourceBytes := ← bytes.getD (.natural Width.natural64) initial.sourceBytes s }

def encode (l : ScriptLimits) : Json := .ofMembers
  [("loopIterationLimit", .ofNat l.loopIterations), ("recursionLimit", .ofNat l.recursion),
    ("maxSourceBytes", .ofNat l.sourceBytes)]

end ScriptLimits

namespace CompletionSettings

def decode : Decoder CompletionSettings := fun s d => do
  let [rounds] ← fields? ["maxToolRounds"] d | none
  let initial : CompletionSettings := {}
  return { maxToolRounds := ← rounds.getD (.natural Width.natural32) initial.maxToolRounds s }

def encode (c : CompletionSettings) : Json := .ofMembers [("maxToolRounds", .ofNat c.maxToolRounds)]

end CompletionSettings

namespace ContextSettings

def decode : Decoder ContextSettings := fun s d => do
  let [guidance, fragment] ←
    fields? ["retrievalGuidancePriority", "defaultFragmentPriority"] d | none
  let initial : ContextSettings := {}
  let priority : Decoder Int := .integer Width.least32 Width.greatest32
  return {
    guidancePriority := ← guidance.getD priority initial.guidancePriority s
    fragmentPriority := ← fragment.getD priority initial.fragmentPriority s }

def encode (c : ContextSettings) : Json := .ofMembers
  [("retrievalGuidancePriority", .ofInt c.guidancePriority),
    ("defaultFragmentPriority", .ofInt c.fragmentPriority)]

end ContextSettings

namespace Settings

def decode : Decoder Settings := fun s d => do
  let [maxSteps, script, completion, context] ←
    fields? ["maxSteps", "script", "completion", "context"] d | none
  let initial : Settings := {}
  return {
    maxSteps := ← maxSteps.getD (.natural Width.natural32) initial.maxSteps s
    script := ← script.getD ScriptLimits.decode {} s
    completion := ← completion.getD CompletionSettings.decode {} s
    context := ← context.getD ContextSettings.decode {} s }

def encode (c : Settings) : Json := .ofMembers
  [("maxSteps", .ofNat c.maxSteps), ("script", c.script.encode),
    ("completion", c.completion.encode), ("context", c.context.encode)]

end Settings

end Workgraph
