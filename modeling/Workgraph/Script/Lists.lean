import Workgraph.Script.Conversion
import Workgraph.Script.Sorting

/-!
# Methods of lists

A method works on any object with a length (`Lists.apply`). Positions without an item are passed
over by the methods that call a function for the items, and by `indexOf`; to the others they are
undefined. A function may change the list while it is gone over: each item is looked up when its
turn comes, the number of turns is settled before.
-/

namespace Workgraph.Script.Lists

open Machine Conversion

/-! ## 1. Items -/

def itemAt (address i : Nat) : Action Value := member (.object address) (.ofNat i)

def hasItem (address i : Nat) : Action Bool := hasMember address (.ofNat i)

/-- A list of a length without items. -/
def makeEmpty (length : Nat) : Action Nat := do
  let address := (← get).objects.size
  let _ ← make { prototype := some Maker.list.prototype, content := .list length }
  return address

/-- Puts an item into a list that was just made. -/
def putItem (address i : Nat) (v : Value) : Action Unit :=
  changeObject address fun o => o.setItem i v

/-- Folds the items at `n` positions from `i` on; the fold may end early. -/
def foldItems (address : Nat) (step : σ → Value → Nat → Action (σ × Bool)) :
    Nat → Nat → σ → Action σ
  | 0, _, acc => return acc
  | n + 1, i, acc => do
    if ← hasItem address i then
      let (acc, finished) ← step acc (← itemAt address i) i
      if finished then return acc else foldItems address step n (i + 1) acc
    else foldItems address step n (i + 1) acc

/-- Puts the items at `n` positions from `i` on into another list from a position on. -/
def copyItems (address target offset n i : Nat) : Action Unit :=
  foldItems address (fun _ v i => do
    putItem target (offset + i) v
    return ((), false)) n i ()

/-- The first of `n` values from position `i` on that `p` accepts, with its position. -/
def findValue (address : Nat) (p : Value → Nat → Action Bool) :
    Nat → Nat → Action (Option (Value × Nat))
  | 0, _ => return none
  | n + 1, i => do
    let v ← itemAt address i
    if ← p v i then return some (v, i) else findValue address p n (i + 1)

/-! ## 2. Texts of lists -/

def comma : Units := .ofString ","

/-- Appends the texts of `n` values from position `i` on, with a separator between them. -/
def joinValues (call : Caller) (sep : Units) (address : Nat) : Nat → Nat → Units → Action Units
  | 0, _, out => return out
  | n + 1, i, out => do
    let out := if i = 0 then out else out ++ sep
    let v ← itemAt address i
    let u ← if v.isAbsent then pure #[] else text call v
    joinValues call sep address n (i + 1) (out ++ u)

/-- The values of a list as one text; a list that is being joined already gives nothing. -/
def join (call : Caller) (address : Nat) (sep : Value) : Action Value :=
  whileJoining address (.text #[]) do
    let n ← lengthOf call address
    let sep ← match sep with
      | .undefined => pure comma
      | v => text call v
    return .text (← joinValues call sep address n 0 #[])

/-- The text of a list: what its method `join` gives. -/
def toText (call : Caller) (address : Nat) : Action Value := do
  let f ← member (.object address) (.ofString "join")
  if ← isCallable f then call f (.object address) []
  else return .text (← tagText (.object address))

/-! ## 3. Order -/

/-- Whether a value comes before another: by a function of the script, or by text. Undefined comes
last and is never given to the function. -/
def sortsBefore (call : Caller) (f a b : Value) : Action Bool := do
  match a, b with
  | .undefined, _ => return false
  | _, .undefined => return true
  | a, b =>
    match f with
    | .undefined =>
      let u ← text call a
      return Units.less u (← text call b)
    | f => return (← number call (← call f .undefined [a, b])) < 0.0

/-- Sets values from a position on. -/
def setItems (call : Caller) (address : Nat) : Nat → List Value → Action Unit
  | _, [] => return
  | i, v :: vs => do
    setMember call (.object address) (.ofNat i) v
    setItems call address (i + 1) vs

/-- Takes out the items at `n` positions from `i` on. -/
def eraseItems (address : Nat) (n i : Nat) : Action Unit :=
  (List.range n).forM fun k => changeObject address fun o => o.erase (.ofNat (i + k))

/-- Sorts the items of a list; positions without one come last. -/
def sort (call : Caller) (address : Nat) (f : Value) : Action Unit := do
  let n ← lengthOf call address
  let items ← foldItems address (fun acc v _ => return (acc.push v, false)) n 0 #[]
  let sorted ← Sorting.sort (sortsBefore call f) items.toList
  setItems call address 0 sorted
  eraseItems address (n - items.size) items.size

/-- Exchanges the items at two positions, where one may be missing. -/
def exchange (call : Caller) (address i j : Nat) : Action Unit := do
  let o := Value.object address
  let first ← if ← hasItem address i then some <$> itemAt address i else pure none
  let second ← if ← hasItem address j then some <$> itemAt address j else pure none
  match second with
  | some v => setMember call o (.ofNat i) v
  | none => changeObject address fun o => o.erase (.ofNat i)
  match first with
  | some v => setMember call o (.ofNat j) v
  | none => changeObject address fun o => o.erase (.ofNat j)

/-! ## 4. Putting lists together -/

/-- Adds values to a list whose length is `n` so far: a list adds its items, any other value itself.
Gives the length. -/
def concatItems (call : Caller) (target : Nat) : Nat → List Value → Action Nat
  | n, [] => return n
  | n, v :: vs => do
    match v, ← isList v with
    | .object address, true =>
      let length ← lengthOf call address
      copyItems address target n length 0
      concatItems call target (n + length) vs
    | v, _ =>
      putItem target n v
      concatItems call target (n + 1) vs

/-- Adds values at the end and gives the length. -/
def push (call : Caller) (address : Nat) (vs : List Value) : Action Nat := do
  let n ← lengthOf call address
  match (← objectAt address).content with
  | .list _ =>
    changeObject address fun o => vs.foldl (fun (o, i) v => (o.setItem i v, i + 1)) (o, n) |>.1
  | _ =>
    setItems call address n vs
    setLengthOf call address (n + vs.length)
  return n + vs.length

/-- The items between two positions as a new list. -/
def slice (call : Caller) (address : Nat) (start stop : Value) : Action Value := do
  let n ← lengthOf call address
  let start ← position call n start 0
  let stop ← position call n stop n
  let target ← makeEmpty (stop - start)
  let _ ← foldItems address (fun _ v i => do
    putItem target (i - start) v
    return ((), false)) (stop - start) start ()
  return .object target

/-! ## 5. All methods -/

/-- The complaint of a method that takes a function as its first argument when it is given
something else. -/
def complaint? (m : ListMethod) (f : Value) : Option String :=
  match m, f with
  | .map, _ => some "Array.prototype.map: Callbackfn is not callable"
  | .filter, _ => some "Array.prototype.filter: `callback` must be callable"
  | .reduce, _ => some "Array.prototype.reduce: callback function is not callable"
  | .some, _ => some "Array.prototype.some: callback is not callable"
  | .every, _ => some "Array.prototype.every: callback is not callable"
  | .find, _ => some "Array.prototype.find: predicate is not callable"
  | .sort, .undefined => none
  | .sort, _ => some "The comparison function must be either a function or undefined"
  | _, _ => none

/-- Combines the items from the left, beginning with the first item if no value is given. -/
def reduce (call : Caller) (address n : Nat) (f : Value) (start : Option Value) :
    Action Value := do
  let step (acc : Option Value) (v : Value) (i : Nat) : Action (Option Value × Bool) := do
    match acc with
    | none => return (some v, false)
    | some a => return (some (← call f .undefined [a, v, .ofNat i, .object address]), false)
  match ← foldItems address step n 0 start with
  | some v => return v
  | none =>
    raiseError .type
      "Array.prototype.reduce: called on an empty array and with no initial value"

/-- A method on an object with a length. -/
def run (call : Caller) (m : ListMethod) (address : Nat) (args : List Value) : Action Value := do
  let o := Value.object address
  let f := args.getD 0 .undefined
  let n ← lengthOf call address
  let ask (v : Value) (i : Nat) : Action Value := call f .undefined [v, .ofNat i, o]
  match m with
  | .map =>
    let target ← makeEmpty n
    foldItems address (fun _ v i => do
      putItem target i (← ask v i)
      return ((), false)) n 0 ()
    return .object target
  | .filter =>
    let kept ← foldItems address (fun acc v i => do
      return (if (← ask v i).truth then acc.push v else acc, false)) n 0 #[]
    makeList kept
  | .reduce => reduce call address n f (args.tail.head?)
  | .some =>
    return .bool (← foldItems address (fun _ v i => do
      let r := (← ask v i).truth
      return (r, r)) n 0 false)
  | .every =>
    return .bool (← foldItems address (fun _ v i => do
      let r := (← ask v i).truth
      return (r, !r)) n 0 true)
  | .find =>
    let found ← findValue address (fun v i => do return (← ask v i).truth) n 0
    return (found.map (·.1)).getD .undefined
  | .join => join call address f
  | .toText => toText call address
  | .slice => slice call address f (args.getD 1 .undefined)
  | .concat =>
    let target ← makeEmpty 0
    let length ← concatItems call target 0 (o :: args)
    changeObject target fun o => o.resize length
    return .object target
  | .indexOf =>
    if n = 0 then return .number (-1.0)
    else
      let start ← position call n (args.getD 1 .undefined) 0
      let found ← foldItems address (fun acc v i => do
        return if v.same f then (some i, true) else (acc, false)) (n - start) start none
      return (found.map Value.ofNat).getD (.number (-1.0))
  | .includes =>
    if n = 0 then return .bool false
    else
      let start ← position call n (args.getD 1 .undefined) 0
      let found ← findValue address (fun v _ => return v.sameItem f) (n - start) start
      return .bool found.isSome
  | .sort =>
    sort call address f
    return o
  | .reverse =>
    (List.range (n / 2)).forM fun i => exchange call address i (n - 1 - i)
    return o
  | .push => return .ofNat (← push call address args)

/-- A method on a receiver, with a function among its arguments where it needs one. -/
def apply (call : Caller) (m : ListMethod) (receiver : Value) (args : List Value) :
    Action Value := do
  let f := args.getD 0 .undefined
  let address ← toObject receiver
  match complaint? m f with
  | some message =>
    if ← isCallable f then run call m address args else raiseError .type message
  | none => run call m address args

end Workgraph.Script.Lists
