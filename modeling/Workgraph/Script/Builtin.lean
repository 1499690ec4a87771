/-!
# Functions that are there from the start

The functions that a script can use without writing them, by what they work on. Each family is a
type with a table of the names under which a script finds its functions and of how many arguments
they are meant for.

The `…Names` are those of functions that scripts of this language may also have; here they can be
found by their names but not used.
-/

namespace Workgraph.Script

/-- The kinds of errors that have a name of their own. -/
inductive ErrorKind where
  | error
  | type
  | range
  | form
  | reference
  deriving DecidableEq, Inhabited

def ErrorKind.name : ErrorKind → String
  | .error => "Error"
  | .type => "TypeError"
  | .range => "RangeError"
  | .form => "SyntaxError"
  | .reference => "ReferenceError"

def ErrorKind.all : List ErrorKind := [.error, .type, .range, .form, .reference]

/-- Functions that make values of a sort, alone or after `new`. -/
inductive Maker where
  | record
  | function
  | list
  | text
  | number
  | truth
  | error (kind : ErrorKind)
  deriving DecidableEq, Inhabited

def Maker.name : Maker → String
  | .record => "Object"
  | .function => "Function"
  | .list => "Array"
  | .text => "String"
  | .number => "Number"
  | .truth => "Boolean"
  | .error kind => kind.name

def Maker.all : List Maker :=
  [.record, .function, .list, .text, .number, .truth] ++ ErrorKind.all.map .error

/-- Functions on any object. -/
inductive ObjectMethod where
  | hasOwn | isVisible | isBefore | toText | toLocalText | toValue
  deriving DecidableEq

/-- Functions on functions. -/
inductive FunctionMethod where
  | call | apply | toText
  deriving DecidableEq

/-- Functions on the items of a list. -/
inductive ListMethod where
  | map | filter | reduce | join | slice | concat | indexOf | includes | sort | reverse | some
  | every | find | push | toText
  deriving DecidableEq

/-- Functions on a text. -/
inductive TextMethod where
  | upper | slice | split | trim | indexOf | includes | startsWith | endsWith | times
  deriving DecidableEq

/-- Functions on numbers. -/
inductive NumberFunction where
  | floor | ceil | round | max | min | abs | sqrt | power
  deriving DecidableEq

inductive Builtin where
  | maker (m : Maker)
  | onObject (m : ObjectMethod)
  | onFunction (m : FunctionMethod)
  | onList (m : ListMethod)
  | onText (m : TextMethod)
  /-- The text, number or truth value inside an object, and its text. -/
  | inner (m : Maker)
  | innerText (m : Maker)
  | errorText
  | numeric (f : NumberFunction)
  | parseInt | parseFloat | isNaN | isFinite | isInteger
  | readJson | writeJson
  | isArray | keys | values
  /-- Gives undefined. -/
  | nothing
  /-- Known by its name only. -/
  | unavailable
  deriving DecidableEq

/-- A function as it is found: its name, the number of its parameters, and what it does. -/
abbrev Entry := String × Nat × Builtin

def ObjectMethod.table : List Entry :=
  [("hasOwnProperty", 1, .onObject .hasOwn), ("propertyIsEnumerable", 1, .onObject .isVisible),
    ("isPrototypeOf", 1, .onObject .isBefore), ("toString", 0, .onObject .toText),
    ("toLocaleString", 0, .onObject .toLocalText), ("valueOf", 0, .onObject .toValue)]

def FunctionMethod.table : List Entry :=
  [("call", 1, .onFunction .call), ("apply", 2, .onFunction .apply),
    ("toString", 0, .onFunction .toText)]

def ListMethod.table : List Entry :=
  [("map", 1, .onList .map), ("filter", 1, .onList .filter), ("reduce", 1, .onList .reduce),
    ("join", 1, .onList .join), ("slice", 2, .onList .slice), ("concat", 1, .onList .concat),
    ("indexOf", 1, .onList .indexOf), ("includes", 1, .onList .includes),
    ("sort", 1, .onList .sort), ("reverse", 0, .onList .reverse), ("some", 1, .onList .some),
    ("every", 1, .onList .every), ("find", 1, .onList .find), ("push", 1, .onList .push),
    ("toString", 0, .onList .toText)]

def TextMethod.table : List Entry :=
  [("toUpperCase", 0, .onText .upper), ("slice", 2, .onText .slice), ("split", 2, .onText .split),
    ("trim", 0, .onText .trim), ("indexOf", 1, .onText .indexOf),
    ("includes", 1, .onText .includes), ("startsWith", 1, .onText .startsWith),
    ("endsWith", 1, .onText .endsWith), ("repeat", 1, .onText .times),
    ("toString", 0, .innerText .text), ("valueOf", 0, .inner .text)]

def NumberFunction.table : List Entry :=
  [("floor", 1, .numeric .floor), ("ceil", 1, .numeric .ceil), ("round", 1, .numeric .round),
    ("max", 2, .numeric .max), ("min", 2, .numeric .min), ("abs", 1, .numeric .abs),
    ("sqrt", 1, .numeric .sqrt), ("pow", 2, .numeric .power)]

/-- Further names of functions on any object. -/
def objectNames : List String :=
  ["__defineGetter__", "__defineSetter__", "__lookupGetter__", "__lookupSetter__"]

/-- Further names of functions on lists. -/
def listNames : List String :=
  ["at", "copyWithin", "entries", "fill", "findIndex", "findLast", "findLastIndex", "flat",
    "flatMap", "forEach", "keys", "lastIndexOf", "pop", "reduceRight", "shift", "splice",
    "toLocaleString", "toReversed", "toSorted", "toSpliced", "unshift", "values", "with"]

/-- Further names of functions on texts. -/
def textNames : List String :=
  ["at", "charAt", "charCodeAt", "codePointAt", "concat", "isWellFormed", "lastIndexOf",
    "localeCompare", "match", "matchAll", "normalize", "padEnd", "padStart", "replace",
    "replaceAll", "search", "substring", "toLocaleLowerCase", "toLocaleUpperCase",
    "toLowerCase", "toWellFormed", "trimEnd", "trimStart"]

/-- Further names of functions on numbers. -/
def numberNames : List String := ["toExponential", "toFixed", "toLocaleString", "toPrecision"]

end Workgraph.Script
