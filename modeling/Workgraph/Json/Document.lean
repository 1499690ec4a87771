import Workgraph.Json

/-!
# JSON documents

A document is what a JSON text says, before anyone has asked for its meaning: members stand in the
order in which they were written, a key may occur twice, and parts that are well formed but have no
value are still there as `unreadable`:

* a number too large for the format;
* a string with half of a surrogate pair;
* an object with such a string as a key;
* an array or object inside more than `maxDepth` others.

A reader that ignores such a part never notices; one that wants its value fails. `value?` is the
reader that wants everything; of two members with one key it takes the later.
-/

namespace Workgraph.Json

/-- How many arrays and objects may stand inside one another. -/
def maxDepth : Nat := 127

inductive Document where
  | null
  | bool (value : Bool)
  | number (value : Number)
  | string (value : String)
  | array (items : List Document)
  | object (members : List (String × Document))
  | unreadable
  deriving Inhabited

namespace Document

mutual

/-- The value of a document all of whose parts are readable. -/
def value? : Document → Option Json
  | .null => some .null
  | .bool b => some (.bool b)
  | .number n => some (.number n)
  | .string s => some (.string s)
  | .array items => (values? items).map .array
  | .object members => (entries? members).map .ofMembers
  | .unreadable => none

def values? : List Document → Option (List Json)
  | [] => some []
  | d :: ds =>
    match value? d, values? ds with
    | some v, some vs => some (v :: vs)
    | _, _ => none

def entries? : List (String × Document) → Option (List (String × Json))
  | [] => some []
  | (k, d) :: ds =>
    match value? d, entries? ds with
    | some v, some vs => some ((k, v) :: vs)
    | _, _ => none

end

mutual

/-- The document that says a value. -/
def ofValue : Json → Document
  | .null => .null
  | .bool b => .bool b
  | .number n => .number n
  | .string s => .string s
  | .array items => .array (ofValues items)
  | .object members => .object (ofEntries members)

def ofValues : List Json → List Document
  | [] => []
  | v :: vs => ofValue v :: ofValues vs

def ofEntries : List (String × Json) → List (String × Document)
  | [] => []
  | (k, v) :: vs => (k, ofValue v) :: ofEntries vs

end

/-- Whether every part of a document has a value. -/
def isReadable (d : Document) : Bool := d.value?.isSome

end Document

end Workgraph.Json
