import Workgraph.Script.Library

/-!
# What every script finds

The names that are declared before a script runs, and the objects behind them: the prototypes of all
sorts of values with their methods, the makers of values, and the two collections `JSON` and `Math`.
All of them are ordinary objects, so a script may put other functions in place of theirs.

`Globals.machine` is a machine on which nothing has run.
-/

namespace Workgraph.Script.Globals

/-! ## 1. Prototypes -/

def contentOf : Maker → Content
  | .list => .list 0
  | .function => .builtin .nothing
  | .text => .boxed (.text #[])
  | .number => .boxed (.number 0.0)
  | .truth => .boxed (.bool false)
  | .record | .error _ => .record

/-- The prototype of a prototype: that of errors for other kinds of errors, else that of records. -/
def prototypeOf : Maker → Option Nat
  | .record => none
  | .error .error => some Maker.record.prototype
  | .error _ => some (Maker.error .error).prototype
  | _ => some Maker.record.prototype

/-- The prototype of what a maker makes, without its methods. -/
def prototypeObject (m : Maker) : Obj :=
  let o : Obj := { prototype := prototypeOf m, content := contentOf m }
  match m with
  | .record => o.hide "__proto__" .undefined
  | .function => (o.fix "length" (.ofNat 0)).fix "name" (.text #[])
  | .error kind => (o.hide "name" (.ofString kind.name)).hide "message" (.text #[])
  | _ => o

/-- Names without what they stand for. -/
def unavailable (names : List String) : List Entry := names.map fun name => (name, 0, .unavailable)

/-- The methods of what a maker makes. -/
def methods : Maker → List Entry
  | .record => ObjectMethod.table ++ unavailable objectNames
  | .function => FunctionMethod.table ++ unavailable ["bind"]
  | .list => ListMethod.table ++ unavailable listNames
  | .text => TextMethod.table ++ unavailable textNames
  | .number =>
    [("toString", 1, .innerText .number), ("valueOf", 0, .inner .number)] ++
      unavailable numberNames
  | .truth => [("toString", 0, .innerText .truth), ("valueOf", 0, .inner .truth)]
  | .error .error => [("toString", 0, .errorText)]
  | .error _ => []

/-- The functions that belong to a maker itself. -/
def ownFunctions : Maker → List Entry
  | .record => [("keys", 1, .keys), ("values", 1, .values)]
  | .list => [("isArray", 1, .isArray)]
  | .number => [("isInteger", 1, .isInteger)]
  | _ => []

/-! ## 2. Functions -/

/-- A function object with its name and the number of its parameters. -/
def functionObject (name : Units) (parameters : Nat) (content : Content) : Obj :=
  let o : Obj := { prototype := some Maker.function.prototype, content }
  (o.fix "length" (.ofNat parameters)).fix "name" (.text name)

/-- Adds a function as a property of an object. -/
def addFunction (owner : Nat) (objects : Array Obj) (e : Entry) : Array Obj :=
  let (name, parameters, f) := e
  let address := objects.size
  (objects.modify owner fun o => o.hide name (.object address)).push
    (functionObject (.ofString name) parameters (.builtin f))

def addFunctions (owner : Nat) (es : List Entry) (objects : Array Obj) : Array Obj :=
  es.foldl (addFunction owner) objects

/-! ## 3. Names -/

/-- Objects made so far, with the names under which some of them are found. -/
structure Store where
  objects : Array Obj
  slots : List Slot

namespace Store

def bind (s : Store) (name : String) (value : Value) : Store :=
  { s with slots := s.slots ++ [{ name, value := some value }] }

/-- Adds a maker and the functions that belong to it. -/
def addMaker (s : Store) (m : Maker) : Store :=
  let address := s.objects.size
  let o := (functionObject (.ofString m.name) 1 (.builtin (.maker m))).fix "prototype"
    (.object m.prototype)
  let objects := (s.objects.modify m.prototype fun p =>
    p.hide "constructor" (.object address)).push o
  { s with objects := addFunctions address (ownFunctions m) objects }.bind m.name
    (.object address)

/-- Adds an object that only holds functions. -/
def addCollection (s : Store) (name : String) (es : List Entry) : Store :=
  let address := s.objects.size
  let o : Obj :=
    { prototype := some Maker.record.prototype, content := .collection name }
  { s with objects := addFunctions address es (s.objects.push o) }.bind name (.object address)

/-- Adds a function that belongs to no object. -/
def addGlobal (s : Store) (e : Entry) : Store :=
  let (name, parameters, f) := e
  let o := functionObject (.ofString name) parameters (.builtin f)
  { s with objects := s.objects.push o }.bind name (.object s.objects.size)

end Store

/-- The names for values that are no objects; assigning to them does nothing. -/
def constants : List Slot :=
  [("undefined", Value.undefined), ("NaN", .number Numeral.undefinedNumber),
    ("Infinity", .number Numeral.infinity)].map fun (name, value) =>
      { name, value := some value, binding := .ignores }

def prototypes : Array Obj :=
  Maker.all.foldl (fun objects m => addFunctions m.prototype (methods m) objects)
    (Maker.all.map prototypeObject).toArray

def jsonFunctions : List Entry := [("parse", 2, .readJson), ("stringify", 3, .writeJson)]

def globalFunctions : List Entry :=
  [("parseInt", 2, .parseInt), ("parseFloat", 1, .parseFloat), ("isNaN", 1, .isNaN),
    ("isFinite", 1, .isFinite)]

/-- Everything that is there from the start. -/
def store : Store :=
  let s : Store := { objects := prototypes, slots := constants }
  let s := Maker.all.foldl Store.addMaker s
  let s := (s.addCollection "JSON" jsonFunctions).addCollection "Math" NumberFunction.table
  globalFunctions.foldl Store.addGlobal s

/-- A machine on which nothing has run. -/
def machine (limits : ScriptLimits) : Machine :=
  { objects := store.objects, scopes := #[{ slots := store.slots, outer := none }], limits }

end Workgraph.Script.Globals
