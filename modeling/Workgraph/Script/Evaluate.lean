import Workgraph.Script.Display
import Workgraph.Script.Globals
import Workgraph.Script.Grammar

/-!
# Running scripts

What expressions, statements and calls do to the machine. Each of the three needs the other two for
its parts; `Runner` holds them, the definitions below build a runner out of one for parts, and
`runner` stacks them up to a bound on the depth. The bound `depthBound` is more than any script can
use before it reaches the limit of nested calls.

* A block is entered by making its names: functions have their values at once, other names when
  their declaration is reached. The body of a function has its block names in a scope of their own,
  in front of its parameters, variables and functions.
* A loop counts its rounds before each look at its condition; a call counts as one level.
* `Flow` says how a statement ended.
-/

namespace Workgraph.Script

open Machine Conversion

/-! ## 1. Runners -/

/-- How a statement ended. -/
inductive Flow where
  | goesOn
  | leavesLoop
  | nextRound
  | givesBack (v : Value)

/-- What runs the parts of expressions and statements, in the scope of a number, and calls. -/
structure Runner where
  value : Nat → Expr → Action Value
  flow : Nat → Stmt → Action Flow
  call : Caller

/-! ## 2. Blocks -/

/-- Makes a function object; one that can be called after `new` has a record that the objects it
makes look into. -/
def makeClosure (f : Function) (scope : Nat) : Action Value := do
  let o := Globals.functionObject f.head.shownName f.head.parameters.length (.closure f scope)
  if f.head.kind = .plain then
    let address := (← get).objects.size
    let v ← make (o.hide "prototype" (.object (address + 1)))
    let _ ← make (emptyRecord.hide "constructor" v)
    return v
  else make o

/-- Makes the functions of a body inside one scope and binds them in another. -/
def bindFunctions (inside scope : Nat) : List Function → Action Unit
  | [] => return
  | f :: fs => do
    bindName scope f.name (← makeClosure f inside)
    bindFunctions inside scope fs

/-- The slots of the names that a body declares for its block, but for functions. -/
def blockSlots (body : List Stmt) : List Slot :=
  (blockNames body).map fun (name, constant) =>
    { name, value := none, binding := if constant then .refuses else .changes }

/-- The slots of the functions that a body declares. -/
def functionSlots (body : List Stmt) : List Slot :=
  (declaredFunctions body).map fun f => { name := f.name, value := some .undefined }

/-- Runs statements one after the other until one does not simply end. -/
def runAll (r : Runner) (here : Nat) : List Stmt → Action Flow
  | [] => return .goesOn
  | s :: ss => do
    match ← r.flow here s with
    | .goesOn => runAll r here ss
    | f => return f

/-- Runs a block in a scope of its own, if it declares names. -/
def runBlock (r : Runner) (here : Nat) (body : List Stmt) : Action Flow := do
  match blockSlots body ++ functionSlots body with
  | [] => runAll r here body
  | slots =>
    let scope ← enter slots (some here)
    bindFunctions scope scope (declaredFunctions body)
    runAll r scope body

/-! ## 3. Calls -/

/-- The positions whose arguments are values of parameters, with these. Of two parameters with one
name the later counts. -/
def linkedParameters (count : Nat) : Nat → List String → List (Nat × String)
  | _, [] => []
  | i, name :: rest =>
    let later := linkedParameters count (i + 1) rest
    if i < count ∧ name ∉ rest then (i, name) :: later else later

/-- The object that holds the arguments of a call, by position. -/
def makeArguments (callee : Value) (parameters : List String) (scope : Nat) (args : List Value) :
    Action Value :=
  let o := Obj.ofItems Maker.record.prototype args.toArray
  let content := Content.arguments scope (linkedParameters args.length 0 parameters)
  make ((({ o with content } : Obj).hide "length" (.ofNat args.length)).hide "callee" callee)

/-- The slots of the parameters. A later slot of one name is never seen. -/
def parameterSlots (parameters : List String) (args : List Value) : List Slot :=
  let rec go : List String → List Value → List Slot → List Slot
    | [], _, acc => acc
    | name :: names, [], acc => go names [] ({ name, value := some .undefined } :: acc)
    | name :: names, v :: vs, acc => go names vs ({ name, value := some v } :: acc)
  go parameters args []

/-- Whether the body of a function needs the object that holds its arguments. -/
def needsArguments (f : Function) : Bool :=
  let name := "arguments"
  f.head.usesArguments && f.head.kind ≠ .arrow && name ∉ f.head.parameters &&
    (declaredFunctions f.body).all (·.name ≠ name) && (blockNames f.body).all (·.1 ≠ name)

/-- Runs the body of a function. -/
def runFunction (r : Runner) (callee : Value) (f : Function) (outer : Nat) (args : List Value) :
    Action Value :=
  asCall do
    let own : List Slot :=
      if needsArguments f then [{ name := "arguments", value := some .undefined }] else []
    let declared : List Slot :=
      f.head.declared.map fun name => { name, value := some .undefined }
    let scope ← enter
      (own ++ parameterSlots f.head.parameters args ++ declared ++ functionSlots f.body)
      (some outer)
    if !own.isEmpty then
      bindName scope "arguments" (← makeArguments callee f.head.parameters scope args)
    let inside ← match blockSlots f.body with
      | [] => pure scope
      | slots => enter slots (some scope)
    bindFunctions inside scope (declaredFunctions f.body)
    match ← runAll r inside f.body with
    | .givesBack v => return v
    | _ => return .undefined

/-- Calls a value. -/
def callValue (r : Runner) (callee receiver : Value) (args : List Value) : Action Value := do
  match ← content? callee with
  | some (.builtin f) => Library.apply r.call f receiver args
  | some (.closure f scope) => runFunction r callee f scope args
  | _ => throwNotCallable

/-- Calls a value after `new`: a function gives its own object, or a fresh one that looks into its
`prototype`. -/
def create (r : Runner) (callee : Value) (args : List Value) : Action Value := do
  match ← isConstructor callee, ← content? callee with
  | true, some (.builtin f) => Library.construct r.call f args
  | true, some (.closure f scope) =>
    let prototype := match ← member callee (.ofString "prototype") with
      | .object address => address
      | _ => Maker.record.prototype
    let fresh ← make { prototype := some prototype }
    match ← runFunction r callee f scope args with
    | .object address => return .object address
    | _ => return fresh
  | _, _ => raiseError .type "not a constructor"

/-! ## 4. Expressions -/

/-- Gives up the chain when the value before `?.` is absent. -/
def present (v : Value) : Action Value :=
  if v.isAbsent then throw .absent else return v

/-- The result of a chain, undefined when an optional part is absent. -/
def runChain (act : Action Value) : Action Value := fun m =>
  match act m with
  | .error .absent m => .ok .undefined m
  | result => result

/-- The property of a value under another value. -/
def itemOf (r : Runner) (v k : Value) : Action Value := do
  if v.isAbsent then throwAbsent else member v (← key r.call k)

/-- What is called, with the value it belongs to. -/
def calleeOf (r : Runner) (here : Nat) : Expr → Action (Value × Value)
  | .member target k => do
    let v ← r.value here target
    return (← member v (.ofUnits k), v)
  | .item target k => do
    let v ← r.value here target
    return (← itemOf r v (← r.value here k), v)
  | .optional e => do
    let (f, receiver) ← calleeOf r here e
    return (← present f, receiver)
  | .chain e => fun m =>
    match calleeOf r here e m with
    | .error .absent m => .ok (.undefined, .undefined) m
    | result => result
  | e => do return (← r.value here e, .undefined)

/-- Where a value is assigned. -/
inductive Target where
  | name (name : String)
  | member (v : Value) (key : Units)
  | item (v k : Value)

def targetOf (r : Runner) (here : Nat) (e : Expr) : Action Target := do
  match e with
  | .name n => return .name n
  | .member target k => return .member (← r.value here target) k
  | .item target k =>
    let v ← r.value here target
    return .item v (← r.value here k)
  | _ => raiseError .form "invalid assignment"

def Target.read (r : Runner) (here : Nat) : Target → Action Value
  | .name n => nameValue here n
  | .member v k => Machine.member v (.ofUnits k)
  | .item v k => itemOf r v k

def Target.write (r : Runner) (here : Nat) (value : Value) : Target → Action Unit
  | .name n => assignName here n value
  | .member v k => setMember r.call v (.ofUnits k) value
  | .item v k => do
    if v.isAbsent then throwAbsent else setMember r.call v (← key r.call k) value

/-- The second operand of a choice, if it is needed. -/
def choose (op : Choice) (a : Value) (second : Action Value) : Action Value :=
  match op with
  | .and => if a.truth then second else return a
  | .or => if a.truth then return a else second
  | .otherwise => if a.isAbsent then second else return a

def runAssign (r : Runner) (here : Nat) (target : Expr) (how : Combination) (e : Expr) :
    Action Value := do
  let t ← targetOf r here target
  match how with
  | .replace =>
    let v ← r.value here e
    t.write r here v
    return v
  | .compute op =>
    let old ← t.read r here
    let v ← arithmetic r.call op old (← r.value here e)
    t.write r here v
    return v
  | .choose op =>
    let old ← t.read r here
    choose op old do
      let v ← r.value here e
      t.write r here v
      return v

def runStep (r : Runner) (here : Nat) (target : Expr) (op : Arithmetic) (before : Bool) :
    Action Value := do
  let t ← targetOf r here target
  let old ← number r.call (← t.read r here)
  let new ← arithmetic r.call op (.number old) (.number 1.0)
  t.write r here new
  return if before then new else .number old

def runUnary (r : Runner) (here : Nat) (op : Unary) (e : Expr) : Action Value := do
  match op, e with
  | .typeOf, .name n =>
    match ← findName here n with
    | none => return .ofString "undefined"
    | some _ => return .ofString (← typeName (← nameValue here n))
  | .typeOf, e => return .ofString (← typeName (← r.value here e))
  | .not, e => return .bool !(← r.value here e).truth
  | .negate, e => return .number (-(← number r.call (← r.value here e)))
  | .plus, e => return .number (← number r.call (← r.value here e))

/-- Adds members to an object that is being made. -/
def runMembers (r : Runner) (here : Nat) : List Member → Obj → Action Obj
  | [], o => return o
  | .value k e :: rest, o => do
    runMembers r here rest (o.set (.ofUnits k) (← r.value here e))
  | .computed ke e :: rest, o => do
    let k ← key r.call (← r.value here ke)
    runMembers r here rest (o.set k (← r.value here (e.named k.units)))
  | .prototype e :: rest, o => do
    let prototype := match ← r.value here e with
      | .object address => some address
      | .null => none
      | _ => o.prototype
    runMembers r here rest { o with prototype }

/-- Adds items to a list that is being made, from a position on; a missing one leaves a hole. -/
def runItems (r : Runner) (here : Nat) : Nat → List (Option Expr) → Obj → Action Obj
  | n, [], o => return o.resize n
  | n, none :: rest, o => runItems r here (n + 1) rest o
  | n, some e :: rest, o => do
    let v ← r.value here e
    runItems r here (n + 1) rest (o.setItem n v)

def runArguments (r : Runner) (here : Nat) (es : List Expr) : Action (List Value) :=
  es.mapM (r.value here)

/-- Makes a function; one with a name can call itself by it. -/
def runClosure (here : Nat) (f : Function) : Action Value := do
  match f.head.ownName with
  | none => makeClosure f here
  | some name =>
    let scope ← enter [{ name, value := some .undefined, binding := .ignores }] (some here)
    let v ← makeClosure f scope
    bindName scope name v
    return v

/-- The value of an expression. -/
def runValue (r : Runner) (here : Nat) (e : Expr) : Action Value := do
  match e with
  | .null => return .null
  | .bool b => return .bool b
  | .number x => return .number x
  | .text u => return .text u
  | .name n => nameValue here n
  | .array es =>
    make (← runItems r here 0 es (Obj.ofItems Maker.list.prototype #[]))
  | .object members => make (← runMembers r here members emptyRecord)
  | .function f => runClosure here f
  | .member target k => member (← r.value here target) (.ofUnits k)
  | .item target k =>
    let v ← r.value here target
    itemOf r v (← r.value here k)
  | .call callee args =>
    let (f, receiver) ← calleeOf r here callee
    r.call f receiver (← runArguments r here args)
  | .create callee args =>
    let f ← r.value here callee
    create r f (← runArguments r here args)
  | .optional target => present (← r.value here target)
  | .chain e => runChain (r.value here e)
  | .unary op e => runUnary r here op e
  | .arithmetic op a b =>
    let v ← r.value here a
    arithmetic r.call op v (← r.value here b)
  | .compare op a b =>
    let v ← r.value here a
    return .bool (← compare r.call op v (← r.value here b))
  | .choice op a b => choose op (← r.value here a) (r.value here b)
  | .conditional c a b => if (← r.value here c).truth then r.value here a else r.value here b
  | .assign target how e => runAssign r here target how e
  | .step target op before => runStep r here target op before
  | .sequence a b =>
    let _ ← r.value here a
    r.value here b

/-! ## 5. Loops -/

/-- Repeats a round, which gives the state of the next one or how the loop ended. The rounds are
bounded by the limit on loops, so the count never runs out. -/
def repeatRounds (round : σ → Action (σ ⊕ Flow)) : Nat → σ → Action Flow
  | 0, _ => throw (.limit .recursion)
  | n + 1, s => do
    match ← round s with
    | .inl s => repeatRounds round n s
    | .inr f => return f

/-- Repeats rounds, each counted first. -/
def loop (s : σ) (round : σ → Action (σ ⊕ Flow)) : Action Flow := do
  let bound := (← get).limits.loopIterations + 2
  repeatRounds (fun s => do countRound; round s) bound s

/-- Runs the body of a loop, then goes on with `next` unless the loop is left. -/
def roundOf (body : Action Flow) (next : Action (σ ⊕ Flow)) : Action (σ ⊕ Flow) := do
  match ← body with
  | .goesOn | .nextRound => next
  | .leavesLoop => return .inr .goesOn
  | .givesBack v => return .inr (.givesBack v)

/-- A copy of a scope, so that functions made in a round keep the values of that round. -/
def copyScope (scope : Nat) : Action Nat := do
  match (← get).scopes[scope]? with
  | some s => enter s.slots s.outer
  | none => return scope

def runFor (r : Runner) (here : Nat) (first : Stmt) (condition step : Option Expr) (body : Stmt) :
    Action Flow := do
  let slots := blockSlots [first]
  let scope ← if slots.isEmpty then pure here else enter slots (some here)
  let _ ← r.flow scope first
  loop scope fun scope => do
    let goes ← match condition with
      | some c => do pure (← r.value scope c).truth
      | none => pure true
    if goes then
      roundOf (r.flow scope body) do
        let scope ← if slots.isEmpty then pure scope else copyScope scope
        if let some e := step then
          let _ ← r.value scope e
        return .inl scope
    else return .inr .goesOn

/-- What a loop goes over. -/
inductive Series where
  /-- The characters of a text. -/
  | text (u : Units)
  /-- The items of an object with a length, as they are when their turn comes. -/
  | items (address : Nat)

/-- What a loop goes over that is given a value. Objects that look into the prototype of lists are
gone over like lists, those that look into that of texts like their text. -/
def seriesOf (r : Runner) (v : Value) : Action Series := do
  match v with
  | .undefined | .null => throwAbsent
  | .text u => return .text u
  | .object address =>
    let bound := (← get).objects.size + 1
    match (← objectAt address).content with
    | .arguments _ _ => return .items address
    | _ =>
      if ← isAlong Maker.list.prototype bound address then return .items address
      else if ← isAlong Maker.text.prototype bound address then return .text (← text r.call v)
      else raiseError .type "value is not iterable"
  | _ => raiseError .type "value is not iterable"

/-- The item at a place and the place of the next. -/
def Series.next? (r : Runner) (s : Series) (i : Nat) : Action (Option (Value × Nat)) := do
  match s with
  | .text u =>
    match u[i]?, u[i + 1]? with
    | some a, some b =>
      return if Units.isHigh a && Units.isLow b then some (.text #[a, b], i + 2)
        else some (.text #[a], i + 1)
    | some a, none => return some (.text #[a], i + 1)
    | none, _ => return none
  | .items address =>
    if i < (← lengthOf r.call address) then
      return some (← member (.object address) (.ofNat i), i + 1)
    else return none

/-- The names that the head of a loop over items declares for each round. -/
def roundNames : Option Declaration → Expr → List (String × Binding)
  | some .local, .name w => [(w, .changes)]
  | some .constant, .name w => [(w, .refuses)]
  | _, _ => []

def runForOf (r : Runner) (here : Nat) (kind : Option Declaration) (target items : Expr)
    (body : Stmt) : Action Flow := do
  let names := roundNames kind target
  let slots (value : Option Value) : List Slot :=
    names.map fun (name, binding) => { name, value, binding }
  let around ← if names.isEmpty then pure here else enter (slots none) (some here)
  let series ← seriesOf r (← r.value around items)
  loop 0 fun i => do
    match ← series.next? r i with
    | none => return .inr .goesOn
    | some (item, next) =>
      let scope ←
        if names.isEmpty then do
          let t ← targetOf r here target
          t.write r here item
          pure here
        else enter (slots (some item)) (some here)
      roundOf (r.flow scope body) (return .inl next)

/-! ## 6. Statements -/

/-- Binds the names of a declaration. A variable without a value keeps the one it has. -/
def runDeclare (r : Runner) (here : Nat) (kind : Declaration) :
    List (String × Option Expr) → Action Unit
  | [] => return
  | (name, e) :: rest => do
    match kind, e with
    | .variable, none => pure ()
    | .variable, some e => do assignName here name (← r.value here e)
    | _, none => bindName here name .undefined
    | _, some e => do bindName here name (← r.value here e)
    runDeclare r here kind rest

def runGuarded (r : Runner) (here : Nat) (body : List Stmt)
    (handler : Option (Option String × List Stmt)) (last : Option (List Stmt)) : Action Flow := do
  let result ← attempt (runBlock r here body)
  let result ← match result, handler with
    | .error v, some (caught, body) =>
      attempt do
        let scope ← match caught with
          | some name => enter [{ name, value := some v }] (some here)
          | none => pure here
        runBlock r scope body
    | result, _ => pure result
  let after ← match last with
    | some body => runBlock r here body
    | none => pure .goesOn
  match after, result with
  | .goesOn, .ok f => return f
  | .goesOn, .error v => throwValue v
  | f, _ => return f

/-- What a statement does. -/
def runFlow (r : Runner) (here : Nat) (s : Stmt) : Action Flow := do
  match s with
  | .empty | .function _ => return .goesOn
  | .expression e =>
    let _ ← r.value here e
    return .goesOn
  | .declare kind bindings =>
    runDeclare r here kind bindings
    return .goesOn
  | .branch c yes no => if (← r.value here c).truth then r.flow here yes else r.flow here no
  | .whileLoop c body =>
    loop () fun _ => do
      if (← r.value here c).truth then roundOf (r.flow here body) (return .inl ())
      else return .inr .goesOn
  | .doLoop body c =>
    loop () fun _ => roundOf (r.flow here body) do
      return if (← r.value here c).truth then .inl () else .inr .goesOn
  | .forLoop first condition step body => runFor r here first condition step body
  | .forOf kind target items body => runForOf r here kind target items body
  | .leaveLoop => return .leavesLoop
  | .nextRound => return .nextRound
  | .giveBack none => return .givesBack .undefined
  | .giveBack (some e) => return .givesBack (← r.value here e)
  | .throwValue e => throwValue (← r.value here e)
  | .guarded body handler last => runGuarded r here body handler last
  | .block body => runBlock r here body

/-! ## 7. Scripts -/

/-- The runner that goes down a number of levels. -/
def runner : Nat → Runner
  | 0 =>
    { value := fun _ _ => throw (.limit .recursion)
      flow := fun _ _ => throw (.limit .recursion)
      call := fun _ _ _ => throw (.limit .recursion) }
  | n + 1 =>
    { value := fun here e => runValue (runner n) here e
      flow := fun here s => runFlow (runner n) here s
      call := fun f receiver args => callValue (runner n) f receiver args }

/-- More levels than a script of a length can use: each call goes through the parts of the text at
most once, and calls are limited. -/
def depthBound (limits : ScriptLimits) (length : Nat) : Nat :=
  (limits.recursion + 2) * (4 * length + 16)

/-- Runs a whole script on a fresh machine and gives the text of the value of its last expression,
or the text of what stopped it. -/
def Program.run (limits : ScriptLimits) (length : Nat) (script : Program) : Except Units Units :=
  let r := runner (depthBound limits length)
  let act : Action Units := do
    modify fun m => { m with scopes := m.scopes.modify 0 fun s => { s with
      slots := (script.declared.map fun name => { name, value := some .undefined })
        ++ blockSlots script.body ++ functionSlots script.body ++ s.slots } }
    bindFunctions 0 0 (declaredFunctions script.body)
    text r.call (← lastValue r 0 script.body .undefined)
  match act (Globals.machine limits) with
  | .ok u _ => .ok u
  | .error (.thrown v) m =>
    match Display.shown v m with
    | .ok u _ => .error u
    | .error _ _ => .error #[]
  | .error (.limit l) _ => .error (.ofString l.message)
  | .error .absent _ => .ok (.ofString "undefined")
where
  /-- The value of the last statement that is an expression. -/
  lastValue (r : Runner) (here : Nat) : List Stmt → Value → Action Value
    | [], v => return v
    | .expression e :: ss, _ => do lastValue r here ss (← r.value here e)
    | s :: ss, v => do
      let _ ← r.flow here s
      lastValue r here ss v

end Workgraph.Script
