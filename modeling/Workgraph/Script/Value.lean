import Std.Data.TreeMap.Basic
import Workgraph.Script.Builtin
import Workgraph.Script.Tree
import Workgraph.Width

/-!
# Values of scripts

A value is undefined, null, a truth value, a number, a text or the address of an object. Objects
live in a machine (`Script.Machine`), which addresses refer to.

* A property is found under a `Key`: a position, which is a number of 32 bits but the greatest, or
  any other text. The text of a position is no key of the second sort.
* An object has properties by position and by name, `Content` when it is more than a record, and a
  prototype, the object in which is looked for what it has not itself.
* `Obj.keys` are the keys that can be seen: positions in order, then names by age.
-/

namespace Workgraph.Script

/-! ## 1. Values -/

inductive Value where
  | undefined
  | null
  | bool (value : Bool)
  | number (value : Float)
  | text (value : Units)
  | object (address : Nat)
  deriving Inhabited

namespace Value

def ofString (s : String) : Value := .text (.ofString s)

def ofNat (n : Nat) : Value := .number (Float.ofNat n)

/-- Whether a value is undefined or null. -/
def isAbsent : Value → Bool
  | .undefined | .null => true
  | _ => false

def isObject : Value → Bool
  | .object _ => true
  | _ => false

/-- Whether a value counts as true. -/
def truth : Value → Bool
  | .undefined | .null => false
  | .bool b => b
  | .number x => !(x.isNaN || x == 0.0)
  | .text u => !u.isEmpty
  | .object _ => true

/-- Whether two values are the same; an undefined number is not the same as itself. -/
def same : Value → Value → Bool
  | .undefined, .undefined => true
  | .null, .null => true
  | .bool a, .bool b => a == b
  | .number x, .number y => x == y
  | .text u, .text v => u == v
  | .object a, .object b => a == b
  | _, _ => false

/-- Like `same`, but an undefined number is the same as itself. -/
def sameItem : Value → Value → Bool
  | .number x, .number y => x == y || (x.isNaN && y.isNaN)
  | a, b => same a b

end Value

/-! ## 2. Keys -/

inductive Key where
  | position (i : Nat)
  | name (u : Units)
  deriving DecidableEq, Inhabited

/-- The position that a text names: decimal digits without a leading zero, below the greatest number
of 32 bits. -/
def position? (key : Units) : Option Nat :=
  if key.isEmpty || 10 < key.size || (key[0]? == some 48 && 1 < key.size) then none
  else
    let n := key.foldl (fun acc u => acc.bind fun n =>
      if 48 ≤ u && u ≤ 57 then some (10 * n + (u.toNat - 48)) else none) (some 0)
    n.filter (· < Width.natural32)

namespace Key

def ofUnits (u : Units) : Key :=
  match position? u with
  | some i => .position i
  | none => .name u

def ofString (s : String) : Key := ofUnits (.ofString s)

/-- The key of a number that may be too great for a position. -/
def ofNat (i : Nat) : Key :=
  if i < Width.natural32 then .position i else .name (.ofString (toString i))

def units : Key → Units
  | .position i => .ofString (toString i)
  | .name u => u

def length : Key := .ofString "length"

/-- The key under which every object has its prototype. -/
def link : Key := .ofString "__proto__"

end Key

/-! ## 3. Objects -/

/-- What an object is besides its properties. -/
inductive Content where
  | record
  /-- A list has a length; which of its positions hold items is seen from its properties. -/
  | list (length : Nat)
  /-- A function with the scope in which it was made. -/
  | closure (f : Function) (scope : Nat)
  | builtin (f : Builtin)
  | error
  /-- A text, number or truth value as an object. -/
  | boxed (v : Value)
  /-- The arguments of a call. Positions that are linked to a parameter in a scope have its
  value. -/
  | arguments (scope : Nat) (linked : List (Nat × String))
  /-- An object that calls itself by a name. -/
  | collection (name : String)
  deriving Inhabited

structure Property where
  value : Value
  /-- A hidden property is not among the keys that can be seen. -/
  hidden : Bool := false
  /-- A fixed property keeps its value. -/
  fixed : Bool := false
  deriving Inhabited

structure Obj where
  prototype : Option Nat := none
  content : Content := .record
  /-- Values by position. -/
  items : Std.TreeMap Nat Value := {}
  /-- Properties by name, the oldest first. -/
  named : Array (Units × Property) := #[]
  deriving Inhabited

namespace Obj

/-- The property that the content of an object gives it. -/
def contentProperty? (o : Obj) (key : Key) : Option Property :=
  match o.content, key with
  | .list n, .name u =>
    if Key.name u = Key.length then some { value := .ofNat n, hidden := true } else none
  | .boxed (.text t), .position i =>
    t[i]?.map fun u => { value := .text #[u], fixed := true }
  | .boxed (.text t), .name u =>
    if Key.name u = Key.length then some { value := .ofNat t.size, hidden := true, fixed := true }
    else none
  | _, _ => none

/-- The property of the object itself under a key. -/
def own? (o : Obj) (key : Key) : Option Property :=
  match o.contentProperty? key with
  | some p => some p
  | none =>
    match key with
    | .position i => (o.items.get? i).map fun value => { value }
    | .name u => (o.named.find? fun p => p.1 == u).map (·.2)

/-- The object with an item at a position; a list grows to hold it. -/
def setItem (o : Obj) (i : Nat) (value : Value) : Obj :=
  let content := match o.content with
    | .list n => .list (max n (i + 1))
    | c => c
  { o with content, items := o.items.insert i value }

/-- The object with a property under a name. -/
def setNamed (o : Obj) (u : Units) (p : Property) : Obj :=
  match o.named.findIdx? fun q => q.1 == u with
  | some i => { o with named := o.named.modify i fun q => (q.1, p) }
  | none => { o with named := o.named.push (u, p) }

/-- The object with a value under a key. A property that is there stays hidden or seen. -/
def set (o : Obj) (key : Key) (value : Value) : Obj :=
  match key with
  | .position i => o.setItem i value
  | .name u =>
    match o.named.findIdx? fun q => q.1 == u with
    | some i => { o with named := o.named.modify i fun q => (q.1, { q.2 with value }) }
    | none => { o with named := o.named.push (u, { value }) }

/-- The object with a hidden property. -/
def hide (o : Obj) (name : String) (value : Value) : Obj :=
  o.setNamed (.ofString name) { value, hidden := true }

/-- The object with a hidden property that keeps its value. -/
def fix (o : Obj) (name : String) (value : Value) : Obj :=
  o.setNamed (.ofString name) { value, hidden := true, fixed := true }

/-- The object without the property under a key. -/
def erase (o : Obj) (key : Key) : Obj :=
  match key with
  | .position i => { o with items := o.items.erase i }
  | .name u => { o with named := o.named.filter fun q => q.1 != u }

/-- A list with another length; items beyond it are lost. -/
def resize (o : Obj) (n : Nat) : Obj :=
  match o.content with
  | .list before =>
    let items := if before ≤ n then o.items else o.items.filter fun i _ => i < n
    { o with content := .list n, items }
  | _ => o

/-- The keys that can be seen. -/
def keys (o : Obj) : List Key :=
  let units := match o.content with
    | .boxed (.text t) => (List.range t.size).map Key.position
    | _ => []
  units ++ o.items.keys.map Key.position ++
    (o.named.toList.filter fun q => !q.2.hidden).map fun q => Key.name q.1

/-- A list of items without holes, looking into an object next. -/
def ofItems (prototype : Nat) (items : Array Value) : Obj :=
  let found := items.foldl (fun (m, i) v => (m.insert i v, i + 1))
    (({} : Std.TreeMap Nat Value), 0)
  { prototype := some prototype, content := .list items.size, items := found.1 }

end Obj

end Workgraph.Script
