import Workgraph.Script.Machine
import Workgraph.Script.Numeral

/-!
# Conversions between values of scripts

Texts, numbers, keys, comparisons and sums of any values, and setting properties, which converts
the length of a list.

An object is converted by its methods `valueOf` and `toString`, the one or the other first, each
tried when it can be called and given up when it gives an object again (`primitive`); `call` is how
methods are called.
-/

namespace Workgraph.Script

/-- Calls a value with a receiver and arguments. -/
abbrev Caller := Value → Value → List Value → Action Value

namespace Conversion

open Machine

/-! ## 1. Primitives -/

def typeName (v : Value) : Action String := do
  match v with
  | .undefined => return "undefined"
  | .null => return "object"
  | .bool _ => return "boolean"
  | .number _ => return "number"
  | .text _ => return "string"
  | .object _ => return if ← isCallable v then "function" else "object"

/-- The result of calling a method of an object without arguments, if that is no object. -/
def callMethod? (call : Caller) (v : Value) (method : Key) : Action (Option Value) := do
  let f ← member v method
  if ← isCallable f then
    let result ← call f v []
    return if result.isObject then none else some result
  else return none

def toStringKey : Key := .ofString "toString"

def valueOfKey : Key := .ofString "valueOf"

/-- A value without its object, asked for its text first or for its value. -/
def primitive (call : Caller) (textFirst : Bool) (v : Value) : Action Value := do
  if !v.isObject then return v
  else
    match ← callMethod? call v (if textFirst then toStringKey else valueOfKey) with
    | some p => return p
    | none =>
      match ← callMethod? call v (if textFirst then valueOfKey else toStringKey) with
      | some p => return p
      | none => raiseError .type "cannot convert object to primitive value"

/-! ## 2. Texts and numbers -/

/-- The text of a value that is no object. -/
def primitiveText : Value → Units
  | .undefined => .ofString "undefined"
  | .null => .ofString "null"
  | .bool b => .ofString (if b then "true" else "false")
  | .number x => .ofString (Numeral.text x)
  | .text u => u
  | .object _ => #[]

/-- The text of a value. -/
def text (call : Caller) (v : Value) : Action Units :=
  return primitiveText (← primitive call true v)

/-- The number of a value that is no object. -/
def primitiveNumber : Value → Float
  | .undefined | .object _ => Numeral.undefinedNumber
  | .null => 0.0
  | .bool b => if b then 1.0 else 0.0
  | .number x => x
  | .text u => Numeral.ofText u

/-- The number of a value. -/
def number (call : Caller) (v : Value) : Action Float :=
  return primitiveNumber (← primitive call false v)

/-- The whole number of a value, undefined counting as zero. -/
def integer (call : Caller) (v : Value) : Action Float :=
  return Numeral.toInteger (← number call v)

/-- A number brought between zero and a size. -/
def clamp (size : Nat) (x : Float) : Nat :=
  if x < 0.0 then 0 else if x < Float.ofNat size then x.toUInt64.toNat else size

/-- A position that may be counted from the end, brought between zero and a size. -/
def clampFromEnd (size : Nat) (x : Float) : Nat :=
  clamp size (if x < 0.0 then x + Float.ofNat size else x)

/-- A position argument that may be counted from the end, with what it stands for when it is
missing. -/
def position (call : Caller) (size : Nat) (v : Value) (missing : Nat) : Action Nat :=
  match v with
  | .undefined => return missing
  | v => return clampFromEnd size (← integer call v)

/-- What an object calls itself when nothing better is known. -/
def tagText (v : Value) : Action Units := do
  let tag ← match v with
    | .undefined => pure "Undefined"
    | .null => pure "Null"
    | .bool _ => pure "Boolean"
    | .number _ => pure "Number"
    | .text _ => pure "String"
    | .object address => do
      pure (match (← objectAt address).content with
        | .record => "Object"
        | .list _ => "Array"
        | .closure _ _ | .builtin _ => "Function"
        | .error => "Error"
        | .boxed (.bool _) => "Boolean"
        | .boxed (.number _) => "Number"
        | .boxed _ => "String"
        | .arguments _ _ => "Arguments"
        | .collection name => name)
  return .ofString ("[object " ++ tag ++ "]")

/-! ## 3. Keys -/

/-- The position that a number names. -/
def exactPosition? (x : Float) : Option Nat :=
  if x ≥ 0.0 && x < 4294967295.0 && x == x.floor then some x.toUInt64.toNat else none

/-- The key that a value names. -/
def key (call : Caller) (v : Value) : Action Key := do
  match v with
  | .number x =>
    match exactPosition? x with
    | some i => return .position i
    | none => return .name (.ofString (Numeral.text x))
  | .text u => return .ofUnits u
  | v => return .ofUnits (← text call v)

/-- The length that an object has under that name: a whole number up to the greatest that floats
count by ones. -/
def lengthOf (call : Caller) (address : Nat) : Action Nat := do
  match (← objectAt address).content with
  | .list n => return n
  | _ => return clamp 9007199254740991 (← integer call (← member (.object address) Key.length))

/-! ## 4. Setting properties -/

/-- Whether an object is found along the prototypes from another one on. -/
def isAlong (target : Nat) : Nat → Nat → Action Bool
  | 0, _ => return false
  | fuel + 1, address => do
    if address = target then return true
    else match (← objectAt address).prototype with
      | some next => isAlong target fuel next
      | none => return false

/-- Gives an object another prototype; a value that is neither object nor null changes nothing. -/
def setPrototype (address : Nat) (value : Value) : Action Unit := do
  match value with
  | .object next =>
    if address = Maker.record.prototype ||
        (← isAlong address ((← get).objects.size + 1) next) then
      raiseError .type "cannot set the prototype of this object"
    else changeObject address fun o => { o with prototype := some next }
  | .null =>
    changeObject address fun o => { o with prototype := none }
  | _ => return

/-- Sets the length of a list, which must be a natural number of 32 bits. -/
def setLength (call : Caller) (address : Nat) (value : Value) : Action Unit := do
  let n := Numeral.toUnsigned (← number call value)
  if Float.ofNat n == (← number call value) then changeObject address fun o => o.resize n
  else raiseError .range "invalid array length"

/-- Sets a property that an object has itself. -/
def setOwn (call : Caller) (address : Nat) (k : Key) (value : Value) : Action Unit := do
  let o ← objectAt address
  match o.content, linkedTo? o k with
  | .list _, _ =>
    if k = Key.length then setLength call address value
    else changeObject address fun o => o.set k value
  | _, some (scope, name) => bindName scope name value
  | _, none => changeObject address fun o => o.set k value

/-- Sets a property of a value. A fixed one stays, also an inherited one; an inherited one that is
not fixed is covered by a new one. Values that are no objects take none. -/
def setMember (call : Caller) (v : Value) (k : Key) (value : Value) : Action Unit := do
  match v with
  | .undefined | .null => throwAbsent
  | .object address =>
    match ← property? address k with
    | none => changeObject address fun o => o.set k value
    | some (holder, p) =>
      if isLink k holder then setPrototype address value
      else if p.fixed then return
      else if holder = address then setOwn call address k value
      else changeObject address fun o => o.set k value
  | _ => return

/-- Sets the length that a list-like object has under that name. -/
def setLengthOf (call : Caller) (address n : Nat) : Action Unit :=
  setMember call (.object address) Key.length (.ofNat n)

/-! ## 5. Operators -/

/-- Whether two values are equal after conversion. -/
def equal (call : Caller) (a b : Value) : Action Bool := do
  if a.isAbsent || b.isAbsent then return a.isAbsent && b.isAbsent
  else
    let a ← if b.isObject then pure a else primitive call false a
    let b ← if a.isObject then pure b else primitive call false b
    match a, b with
    | .text u, .text v => return u == v
    | .object a, .object b => return a == b
    | .undefined, _ | .null, _ | _, .undefined | _, .null =>
      return a.isAbsent && b.isAbsent
    | a, b => return primitiveNumber a == primitiveNumber b

/-- How two values compare in order; nothing when a number is undefined. -/
def order? (call : Caller) (a b : Value) : Action (Option Ordering) := do
  match ← primitive call false a, ← primitive call false b with
  | .text u, .text v =>
    return some (if Units.less u v then .lt else if u == v then .eq else .gt)
  | a, b =>
    let x := primitiveNumber a
    let y := primitiveNumber b
    return if x < y then some .lt else if x == y then some .eq
      else if x > y then some .gt else none

def sum (call : Caller) (a b : Value) : Action Value := do
  match ← primitive call false a, ← primitive call false b with
  | .text u, p => return .text (u ++ primitiveText p)
  | p, .text v => return .text (primitiveText p ++ v)
  | p, q => return .number (primitiveNumber p + primitiveNumber q)

def arithmetic (call : Caller) (op : Arithmetic) (a b : Value) : Action Value := do
  match op, a, b with
  | .add, a, b => sum call a b
  | op, a, b =>
    let x ← number call a
    let y ← number call b
    return .number (match op with
      | .subtract => x - y
      | .multiply => x * y
      | .divide => x / y
      | .remainder => Numeral.remainder x y
      | .add => x + y)

def compare (call : Caller) (op : Comparison) (a b : Value) : Action Bool := do
  match op with
  | .same => return a.same b
  | .notSame => return !a.same b
  | .equal => equal call a b
  | .notEqual => return !(← equal call a b)
  | .less => return (← order? call a b) == some .lt
  | .lessEqual => return (← order? call a b).any Ordering.isLE
  | .greater => return (← order? call a b) == some .gt
  | .greaterEqual => return (← order? call a b).any Ordering.isGE
  | .within =>
    match b with
    | .object address => hasMember address (← key call a)
    | b =>
      raiseError .type
        ("right-hand side of 'in' should be an object, got " ++ (← typeName b))

end Conversion

end Workgraph.Script
