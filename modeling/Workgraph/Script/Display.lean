import Workgraph.Script.Library

/-!
# Showing a value that nobody caught

When a script ends with an error that it did not catch, the thrown value is shown (`Display.shown`):
texts in quotes, lists with their items in brackets, errors by name and message, functions by name,
and other objects with one property on a line. Objects inside an object are shown property by
property, whatever they are; one inside itself is cut short.
-/

namespace Workgraph.Script.Display

open Machine Conversion

/-- The text of a number; minus zero keeps its sign. -/
def numberText (x : Float) : Units :=
  if x == 0.0 && (Binary64.ofFloat x).isNegative then .ofString "-0"
  else .ofString (Numeral.text x)

def quotedText (u : Units) : Units := Units.ofString "\"" ++ u ++ Units.ofString "\""

/-- A value that is no object. -/
def primitiveShown : Value → Units
  | .text u => quotedText u
  | .number x => numberText x
  | v => primitiveText v

/-- The properties of an object in order: positions, then names, also hidden ones. -/
def properties (o : Obj) : List (Units × Value) :=
  let length := match o.content with
    | .list n => [(Key.length.units, Value.ofNat n)]
    | _ => []
  (o.items.toList.map fun p => ((Key.position p.1).units, p.2)) ++ length ++
    o.named.toList.map fun p => (p.1, p.2.value)

def blanks (n : Nat) : Units := Array.replicate n 32

/-- A value inside an object, with its properties set in by `indent`; `seen` are the objects around
it. -/
def nested : Nat → List Nat → Nat → Value → Action Units
  | 0, _, _, _ => return #[]
  | fuel + 1, seen, indent, v => do
    match v with
    | .object address =>
      if address ∈ seen then return .ofString "[Cycle]"
      else
        let lines ← (properties (← objectAt address)).mapM fun (k, v) => do
          let u ← nested fuel (address :: seen) (indent + 4) v
          return blanks (indent - k.size) ++ k ++ Units.ofString ": " ++ u
        return Units.ofString "\x7b\n" ++ Units.joinWith (.ofString ",\n") lines ++
          Units.ofString "\n" ++ blanks (indent - 4) ++ Units.ofString "\x7d"
    | v => return primitiveShown v

/-- The value of a property as it is shown of an error. -/
def errorPart (address : Nat) (name : String) : Action Units := do
  match ← property? address (.ofString name) with
  | some (_, { value := .text u, .. }) => return u
  | some (_, { value := v, .. }) => nested ((← get).objects.size + 2) [] 4 v
  | none => return #[]

/-- A function by its name. -/
def functionShown (address : Nat) : Action Units := do
  let name ← match ← property? address (.ofString "name") with
    | some (_, { value := .text u, .. }) => pure u
    | _ => pure #[]
  let isClass ← isConstructor (.object address)
  let word := if isClass then "class" else "Function"
  return if name.isEmpty then .ofString ("[" ++ word ++ " (anonymous)]")
    else Units.ofString ("[" ++ word ++ (if isClass then " " else ": ")) ++ name ++
      Units.ofString "]"

/-- An object, with its items if it is a list and `inFull`. -/
def objectShown : Nat → Bool → Nat → Action Units
  | 0, _, _ => return #[]
  | fuel + 1, inFull, address => do
    let boxed (name : String) (v : Value) : Units :=
      Units.ofString (name ++ " \x7b ") ++ primitiveShown v ++ Units.ofString " \x7d"
    let o ← objectAt address
    match o.content with
    | .boxed (.text u) => return boxed "String" (.text u)
    | .boxed (.number x) => return boxed "Number" (.number x)
    | .boxed v => return boxed "Boolean" v
    | .list n =>
      if !inFull then return .ofString ("Array(" ++ toString n ++ ")")
      else if n = 0 then return .ofString "[]"
      else
        let items ← (List.range n).mapM fun i => do
          match ← property? address (.ofNat i) with
          | some (_, { value := .object item, .. }) => objectShown fuel false item
          | some (_, { value := v, .. }) => pure (primitiveShown v)
          | none => pure (.ofString "<empty>")
        return Units.ofString "[ " ++ Units.joinWith (.ofString ", ") items ++
          Units.ofString " ]"
    | .error =>
      return Library.joinError (← errorPart address "name") (← errorPart address "message")
    | .closure _ _ | .builtin _ => functionShown address
    | _ => nested ((← get).objects.size + 2) [] 4 (.object address)

/-- A value as it is shown. -/
def shown (v : Value) : Action Units :=
  match v with
  | .object address => objectShown 2 true address
  | v => return primitiveShown v

end Workgraph.Script.Display
