import Workgraph.Fault
import Workgraph.Graph.NodeBody
import Workgraph.Json.Printer
import Workgraph.Json.Reader
import Workgraph.Script.Evaluate
import Workgraph.Text.Blank

/-!
# Evaluating scripts for a run

Conditions, selectors and transforms are scripts. A script sees copies of parts of a run's state and
gives a value, and lines that it logged; it changes nothing else.

* `ScriptView` is what a script sees, `ScriptOutcome` what it gives, and `ScriptEngine` anything
  that turns the one into the other. Nothing that uses an engine knows how it works.
* `ScriptEngine.limited` is the engine of this library. It puts the script into a text that binds
  the view's parts, collects log lines and answers with a JSON envelope (`wrapped`), runs that text
  and opens the envelope (`opened`). The parts are bound through `JSON.parse` of a quoted literal,
  so none of their text is read as script.
-/

namespace Workgraph

/-- What a script sees. -/
structure ScriptView where
  input : Json
  vars : Json
  messages : Json
  contextMessages : Json
  deriving DecidableEq, Inhabited

/-- What a script gives; with an error the value is null. -/
structure ScriptOutcome where
  value : Json := .null
  error : Option String := none
  logs : List String := []
  deriving DecidableEq, Inhabited

namespace ScriptOutcome

def failed (message : String) : ScriptOutcome := { error := some message }

/-- The value, or the script's error as a fault. -/
def result (o : ScriptOutcome) : Except Fault Json :=
  match o.error with
  | some message => .error (.script message)
  | none => .ok o.value

end ScriptOutcome

/-- Evaluates scripts. -/
structure ScriptEngine where
  /-- The value of an expression. -/
  expression : String → ScriptView → ScriptOutcome
  /-- The value that the body of a function returns; further values can be bound to names. -/
  body : String → ScriptView → Keyed Json → ScriptOutcome

/-- Evaluates a script in the given mode, without further bindings. -/
def ScriptEngine.run (e : ScriptEngine) (mode : ScriptMode) (source : String) (view : ScriptView) :
    ScriptOutcome :=
  match mode with
  | .expression => e.expression source view
  | .function => e.body source view []

namespace Script

/-! ## 1. The text that is run -/

/-- An expression whose value is a copy of a JSON value. -/
def bound (v : Json) : String := "JSON.parse(" ++ quoted v.compact ++ ")"

/-- A line that declares a name with a copy of a JSON value. -/
def binding (name : String) (v : Json) : String := "var " ++ name ++ " = " ++ bound v ++ ";\n"

/-- Whether a name can be bound: letters, digits, underscores and dollar signs, not beginning with a
digit or two underscores. -/
def isBindable (name : String) : Bool :=
  match name.toList with
  | [] => false
  | '_' :: '_' :: _ => false
  | c :: cs =>
    (c.isAlpha || c == '_' || c == '$') && cs.all fun c => c.isAlphanum || c == '_' || c == '$'

/-- Declares the functions that collect log lines. -/
def logging : String := "
var __logs = [];
var log = function() \x7b
    var parts = [];
    for (var i = 0; i < arguments.length; i++) \x7b
        var a = arguments[i];
        parts.push(typeof a === 'object' ? JSON.stringify(a) : String(a));
    \x7d
    __logs.push(parts.join(' '));
\x7d;
var console = \x7b log: log, info: log, warn: log, error: log \x7d;
"

/-- A script as a call whose value is the script's. -/
def asCallText (mode : ScriptMode) (source : String) : String :=
  match mode with
  | .expression => "(function() \x7b return (\n" ++ source ++ "\n); \x7d)()"
  | .function => "(function() \x7b\n" ++ source ++ "\n\x7d)()"

/-- The bindings of a view and of further values. -/
def bindingText (view : ScriptView) (extras : Keyed Json) : String :=
  binding "input" view.input ++ binding "vars" view.vars ++ binding "messages" view.messages
    ++ binding "contextMessages" view.contextMessages
    ++ String.join (extras.map fun (name, v) => binding name v)

/-- The whole text: the bindings outside, the script inside the part whose errors are caught, and an
envelope with the value or the error, and the log lines, as the result. -/
def wrapped (mode : ScriptMode) (source : String) (view : ScriptView) (extras : Keyed Json) :
    String :=
  "(function() \x7b\n" ++ logging ++ "\n" ++ bindingText view extras
    ++ "\ntry \x7b\n    var __value = " ++ asCallText mode source ++ ";\n"
    ++ "    return JSON.stringify(\x7b ok: true, "
    ++ "value: __value === undefined ? null : __value, logs: __logs \x7d);\n"
    ++ "\x7d catch (e) \x7b\n"
    ++ "    var __message = (e && e.message !== undefined) "
    ++ "? (e.name ? e.name + ': ' : '') + e.message : String(e);\n"
    ++ "    return JSON.stringify(\x7b ok: false, error: __message, logs: __logs \x7d);\n"
    ++ "\x7d\n\x7d)()"

/-! ## 2. The envelope -/

/-- A log line; what is no text is written as JSON. -/
def logLine : Json → String
  | .string s => s
  | v => v.compact

/-- The log lines in an envelope. -/
def envelopeLogs (envelope : Json) : List String :=
  match envelope.member? "logs" with
  | some (.array items) => items.map logLine
  | _ => []

/-- What an envelope says. -/
def opened (text : String) : ScriptOutcome :=
  match Json.ofText? text with
  | none => .failed "script produced unreadable output"
  | some envelope =>
    let logs := envelopeLogs envelope
    if envelope.member? "ok" = some (.bool true) then
      { value := (envelope.member? "value").getD .null, logs }
    else
      { error := some (((envelope.member? "error").bind Json.asString?).getD "script failed")
        logs }

/-! ## 3. Evaluating -/

/-- What a whole text gives. -/
def evaluateText (limits : ScriptLimits) (text : String) : ScriptOutcome :=
  match Program.ofText? text with
  | none => .failed "SyntaxError: malformed script"
  | some script =>
    match script.run limits text.length with
    | .ok u => opened u.shown
    | .error u => .failed u.shown

/-- Evaluates a script unless it is blank, too long or bound to an impossible name. -/
def evaluate (limits : ScriptLimits) (mode : ScriptMode) (source : String) (view : ScriptView)
    (extras : Keyed Json) : ScriptOutcome :=
  let size := source.utf8ByteSize
  if Text.isAllBlank source then .failed "script is empty"
  else if limits.sourceBytes < size then
    .failed ("script is " ++ toString size ++ " bytes, limit is " ++ toString limits.sourceBytes)
  else match extras.find? fun e => !isBindable e.1 with
    | some (name, _) => .failed ("'" ++ name ++ "' is not a valid binding name")
    | none => evaluateText limits (wrapped mode source view extras)

end Script

/-- The engine of this library, with limits on every evaluation. -/
def ScriptEngine.limited (limits : ScriptLimits) : ScriptEngine where
  expression source view := Script.evaluate limits .expression source view []
  body source view extras := Script.evaluate limits .function source view extras

end Workgraph
