import Workgraph.Script.Value
import Workgraph.Settings

/-!
# The machine that scripts run on

* `Machine` holds the objects and scopes made so far, how deep calls are nested and how many rounds
  of loops the current call has made.
* `Action` is a step on it: it ends with a result or with a `Stop`, and keeps the machine in both
  cases.
* A script can catch what is thrown; the limits it cannot.
* The first objects are the prototypes of what the makers make (`Maker.prototype`). The property
  `__proto__` of the prototype of records stands for the prototype of whatever it is asked of.
-/

namespace Workgraph.Script

/-! ## 1. Scopes -/

/-- What assigning to a name does. -/
inductive Binding where
  | changes
  /-- Assigning is an error. -/
  | refuses
  /-- Assigning does nothing. -/
  | ignores
  deriving DecidableEq, Inhabited

structure Slot where
  name : String
  /-- A block's name has no value before its declaration. -/
  value : Option Value
  binding : Binding := .changes
  deriving Inhabited

structure Scope where
  slots : List Slot
  outer : Option Nat
  deriving Inhabited

/-! ## 2. Machines -/

structure Machine where
  objects : Array Obj := #[]
  scopes : Array Scope := #[]
  /-- Calls that have not ended. -/
  depth : Nat := 1
  /-- Rounds of loops in the current call. -/
  rounds : Nat := 0
  /-- The lists that are being joined to a text. -/
  joining : List Nat := []
  limits : ScriptLimits
  deriving Inhabited

inductive Limit where
  | loopIterations (limit : Nat)
  | recursion
  deriving DecidableEq

def Limit.message : Limit → String
  | .loopIterations n =>
    "RuntimeLimit: Maximum loop iteration limit " ++ toString n ++ " exceeded"
  | .recursion => "RuntimeLimit: exceeded maximum number of recursive calls"

/-- Why an action ended without a result. -/
inductive Stop where
  | thrown (v : Value)
  | limit (l : Limit)
  /-- An optional part of a chain was absent; the chain is undefined. -/
  | absent

abbrev Action := EStateM Stop Machine

/-- The address of the prototype of the objects that a maker makes. -/
def Maker.prototype : Maker → Nat
  | .record => 0
  | .function => 1
  | .list => 2
  | .text => 3
  | .number => 4
  | .truth => 5
  | .error .error => 6
  | .error .type => 7
  | .error .range => 8
  | .error .form => 9
  | .error .reference => 10

namespace Machine

/-! ## 3. Objects -/

/-- Adds an object. -/
def make (o : Obj) : Action Value := do
  let address := (← get).objects.size
  modify fun m => { m with objects := m.objects.push o }
  return .object address

/-- A record without properties. -/
def emptyRecord : Obj := { prototype := some Maker.record.prototype }

def makeRecord : Action Value := make emptyRecord

def makeList (items : Array Value) : Action Value := make (.ofItems Maker.list.prototype items)

def objectAt (address : Nat) : Action Obj := return (← get).objects.getD address {}

def changeObject (address : Nat) (f : Obj → Obj) : Action Unit :=
  modify fun m => { m with objects := m.objects.modify address f }

/-- The content of a value that is an object. -/
def content? : Value → Action (Option Content)
  | .object address => return some (← objectAt address).content
  | _ => return none

/-- An error with a message. -/
def makeError (kind : ErrorKind) (message : Units) : Action Value :=
  let o : Obj := { prototype := some (Maker.error kind).prototype, content := .error }
  make (o.hide "message" (.text message))

def throwValue (v : Value) : Action α := throw (.thrown v)

def raiseError (kind : ErrorKind) (message : String) : Action α := do
  throwValue (← makeError kind (.ofString message))

/-- The error of looking into undefined or null. -/
def throwAbsent : Action α :=
  raiseError .type "cannot convert 'null' or 'undefined' to object"

def throwNotCallable : Action α := raiseError .type "not a callable function"

def isList (v : Value) : Action Bool := do
  match ← content? v with
  | some (.list _) => return true
  | _ => return false

/-- Whether a value can be called. -/
def isCallable (v : Value) : Action Bool := do
  match ← content? v with
  | some (.closure _ _) | some (.builtin _) => return true
  | _ => return false

/-- Whether a value can be called after `new`. -/
def isConstructor (v : Value) : Action Bool := do
  match ← content? v with
  | some (.closure f _) => return f.head.kind = .plain
  | some (.builtin (.maker _)) => return true
  | _ => return false

/-! ## 4. Names -/

/-- Adds a scope. -/
def enter (slots : List Slot) (outer : Option Nat) : Action Nat := do
  let address := (← get).scopes.size
  modify fun m => { m with scopes := m.scopes.push { slots, outer } }
  return address

/-- The innermost scope from one on that holds a name, with what it holds. Scopes lie in older
scopes, so their number bounds the search. -/
def find? (scopes : Array Scope) (name : String) : Nat → Nat → Option (Nat × Slot)
  | 0, _ => none
  | fuel + 1, at_ =>
    match scopes[at_]? with
    | none => none
    | some scope =>
      match scope.slots.find? fun s => s.name == name with
      | some slot => some (at_, slot)
      | none => scope.outer.bind (find? scopes name fuel)

def findName (scope : Nat) (name : String) : Action (Option (Nat × Slot)) := do
  let scopes := (← get).scopes
  return find? scopes name (scopes.size + 1) scope

/-- Slots with the value of a name set. -/
def setSlot (name : String) (value : Value) : List Slot → List Slot
  | [] => []
  | s :: rest =>
    if s.name == name then { s with value := some value } :: rest
    else s :: setSlot name value rest

/-- Gives a name of a scope its value. -/
def bindName (scope : Nat) (name : String) (value : Value) : Action Unit :=
  modify fun m =>
    { m with scopes := m.scopes.modify scope fun s =>
      { s with slots := setSlot name value s.slots } }

def throwUninitialized : Action α :=
  raiseError .reference "access to uninitialized binding"

/-- The value of a name. -/
def nameValue (scope : Nat) (name : String) : Action Value := do
  match ← findName scope name with
  | some (_, { value := some v, .. }) => return v
  | some _ => throwUninitialized
  | none => raiseError .reference (name ++ " is not defined")

/-- Assigns to a name; one that is not declared becomes a name of the outermost scope. -/
def assignName (scope : Nat) (name : String) (value : Value) : Action Unit := do
  match ← findName scope name with
  | some (at_, slot) =>
    match slot.value, slot.binding with
    | none, _ => throwUninitialized
    | some _, .changes => bindName at_ name value
    | some _, .refuses =>
      raiseError .type ("cannot mutate an immutable binding '" ++ name ++ "'")
    | some _, .ignores => return
  | none =>
    modify fun m => { m with scopes := m.scopes.modify 0 fun s =>
      { s with slots := s.slots ++ [{ name, value := some value }] } }

/-- The value of a name in one scope. -/
def slotValue (scope : Nat) (name : String) : Action Value := do
  let slot := ((← get).scopes[scope]?).bind fun s => s.slots.find? fun s => s.name == name
  return (slot.bind (·.value)).getD .undefined

/-! ## 5. Properties -/

/-- The parameter that an object links to a position, with its scope. -/
def linkedTo? (o : Obj) (key : Key) : Option (Nat × String) :=
  match o.content, key with
  | .arguments scope linked, .position i => (linked.lookup i).map fun name => (scope, name)
  | _, _ => none

/-- The property of an object itself, where linked arguments have the values of their
parameters. -/
def ownProperty? (o : Obj) (key : Key) : Action (Option Property) := do
  match linkedTo? o key with
  | some (scope, name) => return some { value := ← slotValue scope name }
  | none => return o.own? key

/-- The first object from one on, along the prototypes, that has a property, with what it has. -/
def lookup? (key : Key) : Nat → Nat → Action (Option (Nat × Property))
  | 0, _ => return none
  | fuel + 1, address => do
    let o ← objectAt address
    match ← ownProperty? o key with
    | some p => return some (address, p)
    | none =>
      match o.prototype with
      | some next => lookup? key fuel next
      | none => return none

/-- The property of an object under a key, its own or inherited. No prototype lies before itself, so
the number of objects bounds the search. -/
def property? (address : Nat) (key : Key) : Action (Option (Nat × Property)) := do
  lookup? key ((← get).objects.size + 1) address

/-- Whether an object has a property, its own or inherited. -/
def hasMember (address : Nat) (key : Key) : Action Bool := return (← property? address key).isSome

/-- Where properties of a value are looked for. -/
def home? : Value → Option Nat
  | .undefined | .null => none
  | .object address => some address
  | .text _ => some Maker.text.prototype
  | .number _ => some Maker.number.prototype
  | .bool _ => some Maker.truth.prototype

/-- The prototype of a value, or null. -/
def prototypeOf (v : Value) : Action Value := do
  let found : Option Nat ← match v with
    | .object address => do pure (← objectAt address).prototype
    | v => pure (home? v)
  return (found.map Value.object).getD .null

/-- Whether a found property stands for the prototype. -/
def isLink (key : Key) (address : Nat) : Bool :=
  address = Maker.record.prototype && key = Key.link

/-- The property of a value under a key. -/
def member (v : Value) (key : Key) : Action Value := do
  let own? := match v with
    | .text u => ({ content := .boxed (.text u) } : Obj).contentProperty? key
    | _ => none
  match own?, home? v with
  | some p, _ => return p.value
  | none, none => throwAbsent
  | none, some home =>
    match ← property? home key with
    | some (address, p) => if isLink key address then prototypeOf v else return p.value
    | none => return .undefined

/-- The value as an object; undefined and null are none. -/
def toObject (v : Value) : Action Nat := do
  match v, home? v with
  | .object address, _ => return address
  | _, none => throwAbsent
  | v, some home =>
    let address := (← get).objects.size
    let _ ← make { prototype := some home, content := .boxed v }
    return address

/-! ## 6. Limits -/

/-- Counts a round of a loop. -/
def countRound : Action Unit := do
  let m ← get
  if m.limits.loopIterations < m.rounds then
    throw (.limit (.loopIterations m.limits.loopIterations))
  else set { m with rounds := m.rounds + 1 }

/-- Runs an action as a call: one level deeper, with rounds counted anew. -/
def asCall (act : Action α) : Action α := fun m =>
  if m.limits.recursion ≤ m.depth then .error (.limit .recursion) m
  else
    let depth := m.depth
    let rounds := m.rounds
    match act { m with depth := depth + 1, rounds := 0 } with
    | .ok a m => .ok a { m with depth, rounds }
    | .error e m => .error e { m with depth, rounds }

/-- Runs an action that joins a list to a text, unless that list is being joined already. -/
def whileJoining (address : Nat) (already : α) (act : Action α) : Action α := fun m =>
  if address ∈ m.joining then .ok already m
  else
    let joining := m.joining
    match act { m with joining := address :: joining } with
    | .ok a m => .ok a { m with joining }
    | .error e m => .error e { m with joining }

/-- The result of an action, or what it threw. -/
def attempt (act : Action α) : Action (Except Value α) := fun m =>
  match act m with
  | .ok a m => .ok (.ok a) m
  | .error (.thrown v) m => .ok (.error v) m
  | .error e m => .error e m

end Machine

end Workgraph.Script
