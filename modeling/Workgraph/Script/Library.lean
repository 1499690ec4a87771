import Workgraph.Script.JsonText
import Workgraph.Script.Lists
import Workgraph.Script.Texts

/-!
# What functions that are there from the start do

`Library.apply` is a call of such a function on a receiver, `Library.construct` a call after `new`,
which only the makers of values know. A function that takes another one calls it through `call`.
-/

namespace Workgraph.Script.Library

open Machine Conversion

/-- The argument at a position. -/
def arg (args : List Value) (i : Nat) : Value := args.getD i .undefined

/-! ## 1. Numbers -/

/-- The greatest of some numbers; minus infinity when there is none, undefined when one is. Zero is
greater than minus zero. -/
def greatest (xs : List Float) : Float :=
  xs.foldl (fun m x =>
    if m.isNaN || x.isNaN then Numeral.undefinedNumber
    else if x == 0.0 && m == 0.0 then (if (Binary64.ofFloat m).isNegative then x else m)
    else if m < x then x else m) (-Numeral.infinity)

/-- The least of some numbers. -/
def least (xs : List Float) : Float := -(greatest (xs.map fun x => -x))

def numeric (call : Caller) (f : NumberFunction) (args : List Value) : Action Float := do
  match f with
  | .max => return greatest (← args.mapM (number call))
  | .min => return least (← args.mapM (number call))
  | .power =>
    let x ← number call (arg args 0)
    return Numeral.power x (← number call (arg args 1))
  | f =>
    let x ← number call (arg args 0)
    return match f with
      | .floor => x.floor
      | .ceil => x.ceil
      | .round => Numeral.roundHalfUp x
      | .sqrt => x.sqrt
      | _ => x.abs

/-- The integer at the beginning of a text, in the base that is asked for. -/
def parseInt (call : Caller) (v base : Value) : Action Float := do
  let u ← text call v
  return Numeral.leadingInteger u (Numeral.toSigned (← number call base))

def isInteger : Value → Bool
  | .number x => x.isFinite && x == x.floor
  | _ => false

/-! ## 2. Making values -/

/-- A list with the given items; one number alone is its length. -/
def makeListOf (args : List Value) : Action Value := do
  match args with
  | [.number x] =>
    let n := Numeral.toUnsigned x
    if Float.ofNat n == x then return .object (← Lists.makeEmpty n)
    else raiseError .range "invalid array length"
  | args => makeList args.toArray

/-- An error with a message and, if an object says so, with its cause. -/
def makeErrorOf (call : Caller) (kind : ErrorKind) (message options : Value) : Action Value := do
  let o : Obj := { prototype := some (Maker.error kind).prototype, content := .error }
  let o ← match message with
    | .undefined => pure o
    | v => do pure (o.hide "message" (.text (← text call v)))
  let causeKey := Key.ofString "cause"
  let o ← match options with
    | .object address =>
      if ← hasMember address causeKey then do pure (o.hide "cause" (← member options causeKey))
      else pure o
    | _ => pure o
  make o

/-- The number, text or truth value that a maker makes of its arguments. -/
def convert (call : Caller) (m : Maker) (args : List Value) : Action Value := do
  match m, args with
  | .number, [] => return .number 0.0
  | .number, v :: _ => return .number (← number call v)
  | .text, [] => return .text #[]
  | .text, v :: _ => return .text (← text call v)
  | _, args => return .bool (arg args 0).truth

/-- An object that a maker makes. -/
def makeObject (call : Caller) (m : Maker) (args : List Value) : Action Value := do
  match m with
  | .record =>
    let v := arg args 0
    if v.isAbsent then makeRecord else return .object (← toObject v)
  | .list => makeListOf args
  | .error kind => makeErrorOf call kind (arg args 0) (arg args 1)
  | .function => raiseError .type "functions are not made from texts"
  | m => make { prototype := some m.prototype, content := .boxed (← convert call m args) }

/-- A maker called without `new`. -/
def applyMaker (call : Caller) (m : Maker) (args : List Value) : Action Value :=
  match m with
  | .number | .text | .truth => convert call m args
  | m => makeObject call m args

/-! ## 3. Objects and functions -/

/-- The keys that can be seen of a value. -/
def keysOf (v : Value) : Action (List Key) := return (← objectAt (← toObject v)).keys

def onObject (call : Caller) (m : ObjectMethod) (receiver x : Value) : Action Value := do
  let own? : Action (Option Property) := do
    let k ← key call x
    ownProperty? (← objectAt (← toObject receiver)) k
  match m with
  | .hasOwn => return .bool (← own?).isSome
  | .isVisible => return .bool ((← own?).any fun p => !p.hidden)
  | .isBefore =>
    match x with
    | .object address =>
      let target ← toObject receiver
      match (← objectAt address).prototype with
      | some next => return .bool (← isAlong target ((← get).objects.size + 1) next)
      | none => return .bool false
    | _ => return .bool false
  | .toText => return .text (← tagText receiver)
  | .toLocalText => call (← member receiver toStringKey) receiver []
  | .toValue => return .object (← toObject receiver)

/-- The text of a function: as it was written, or that its code is not shown. -/
def functionText (v : Value) : Action Value := do
  match ← content? v with
  | some (.closure f _) => return .text f.head.source
  | some (.builtin _) =>
    let name := primitiveText (← member v (.ofString "name"))
    return .text (Units.ofString "function " ++ name ++
      Units.ofString "() \x7b [native code] \x7d")
  | _ => raiseError .type "not a function"

/-- The values that an object with a length holds. -/
def valuesOf (call : Caller) (v : Value) : Action (List Value) := do
  match v with
  | .undefined | .null => return []
  | .object address => (List.range (← lengthOf call address)).mapM (Lists.itemAt address)
  | _ => raiseError .type "arguments must be an object"

def onFunction (call : Caller) (m : FunctionMethod) (receiver : Value) (args : List Value) :
    Action Value := do
  match m with
  | .toText => functionText receiver
  | .call => call receiver (arg args 0) args.tail
  | .apply => call receiver (arg args 0) (← valuesOf call (arg args 1))

/-- The text, number or truth value that a receiver is or holds. -/
def innerOf (m : Maker) (receiver : Value) : Action Value := do
  let v ← match ← content? receiver with
    | some (.boxed v) => pure v
    | _ => pure receiver
  match m, v with
  | .text, .text _ | .number, .number _ | .truth, .bool _ => return v
  | _, _ => raiseError .type "not a value of this sort"

/-- The text of what a receiver is or holds; a whole number can be written in another base. -/
def innerText (call : Caller) (m : Maker) (receiver base : Value) : Action Value := do
  let v ← innerOf m receiver
  let base ← match m, base with
    | .number, .undefined => pure 10.0
    | .number, b => integer call b
    | _, _ => pure 10.0
  match v with
  | .number x =>
    if base < 2.0 || 36.0 < base then raiseError .range "radix out of range"
    else if base == 10.0 || !x.isFinite then return .text (primitiveText v)
    else if x == x.floor then
      return .text (.ofString (Numeral.wholeText (clamp 36 base) (Binary64.ofFloat x).truncate))
    else raiseError .type "only whole numbers are written in another base"
  | v => return .text (primitiveText v)

/-- The name and message of an error with a colon between them. -/
def joinError (name message : Units) : Units :=
  if name.isEmpty then message
  else if message.isEmpty then name
  else name ++ Units.ofString ": " ++ message

def errorText (call : Caller) (receiver : Value) : Action Value := do
  if receiver.isObject then
    let name ← match ← member receiver (.ofString "name") with
      | .undefined => pure (Units.ofString "Error")
      | v => text call v
    let message ← match ← member receiver (.ofString "message") with
      | .undefined => pure #[]
      | v => text call v
    return .text (joinError name message)
  else raiseError .type "not an object"

/-! ## 4. All functions -/

/-- The function `f`, called on a receiver. -/
def apply (call : Caller) (f : Builtin) (receiver : Value) (args : List Value) : Action Value := do
  let x := arg args 0
  match f with
  | .maker m => applyMaker call m args
  | .onObject m => onObject call m receiver x
  | .onFunction m => onFunction call m receiver args
  | .onList m => Lists.apply call m receiver args
  | .onText m => Texts.apply call m receiver args
  | .inner m => innerOf m receiver
  | .innerText m => innerText call m receiver x
  | .errorText => errorText call receiver
  | .numeric g => return .number (← numeric call g args)
  | .parseInt => return .number (← parseInt call x (arg args 1))
  | .parseFloat => return .number (Numeral.leadingDecimal (← text call x))
  | .isNaN => return .bool (← number call x).isNaN
  | .isFinite => return .bool (← number call x).isFinite
  | .isInteger => return .bool (isInteger x)
  | .readJson => JsonText.readRevised call (← text call x) (arg args 1)
  | .writeJson => JsonText.write call x (arg args 1) (arg args 2)
  | .isArray => return .bool (← isList x)
  | .keys => makeList ((← keysOf x).map fun k => Value.text k.units).toArray
  | .values => makeList (← (← keysOf x).mapM fun k => member x k).toArray
  | .nothing => return .undefined
  | .unavailable => raiseError .type "this function is not available"

/-- The function `f`, called after `new`, if it can be. -/
def construct (call : Caller) (f : Builtin) (args : List Value) : Action Value :=
  match f with
  | .maker m => makeObject call m args
  | _ => raiseError .type "not a constructor"

end Workgraph.Script.Library
