import Workgraph.Json.Document

/-!
# From documents to records

How the parts of a document become the fields of a record. A decoder gives nothing when the
document does not have the form it wants; the reasons are not told apart.

* A record is written as an object, where unknown members are ignored and a known one may occur
  once, or as an array of its fields in order, where fields with a default may be missing at the
  end (`fields?`, `Field`).
* A name out of a list is written as a string, or as an object whose one key is the name and whose
  value is null (`choice`).
* A record of one of several kinds is written with its kind as a member, or as an array that
  begins with the kind (`tagged?`). To find the kind, the whole record is held first, so all its
  parts must be readable; decoding then goes on with what is held (`Source.held`), where a kind may
  also be written as its position in the list and the value of a name as an empty object.
-/

namespace Workgraph.Json

/-- Whether a document is decoded as it was written, or after it was held to find a kind. -/
inductive Source where
  | written
  | held
  deriving DecidableEq

/-- A decoder for `α`. -/
abbrev Decoder (α : Type) := Source → Document → Option α

namespace Decoder

/-! ## 1. Single values -/

def string : Decoder String
  | _, .string s => some s
  | _, _ => none

def bool : Decoder Bool
  | _, .bool b => some b
  | _, _ => none

/-- An integer between two bounds; a number with a fraction or an exponent is none. -/
def integer (min max : Int) : Decoder Int
  | _, .number (.integer i) => if min ≤ i ∧ i ≤ max then some i else none
  | _, _ => none

/-- An integer from 0 to `max`. -/
def natural (max : Nat) : Decoder Nat
  | _, .number (.integer i) => if 0 ≤ i ∧ i ≤ max then some i.toNat else none
  | _, _ => none

/-- A number, taken as floating-point. -/
def real : Decoder Binary64
  | _, .number (.integer i) => some (.ofInt i)
  | _, .number (.real x) => some x
  | _, _ => none

/-- Any value. -/
def value : Decoder Json := fun _ d => d.value?

/-- A value or null. -/
def optional (decode : Decoder α) : Decoder (Option α)
  | _, .null => some none
  | s, d => (decode s d).map some

/-- An array of values. -/
def list (decode : Decoder α) : Decoder (List α)
  | s, .array items => items.mapM (decode s)
  | _, _ => none

/-- An object of any members; of two with one key the later counts. -/
def keyed (decode : Decoder α) : Decoder (Keyed α)
  | s, .object members =>
    (members.mapM fun m => (decode s m.2).map (Prod.mk m.1)).map Keyed.ofList
  | _, _ => none

/-! ## 2. Names -/

/-- The entry of a table under a name. -/
def entry? (table : List (String × α)) (name : String) : Option α :=
  (table.find? fun e => e.1 = name).map (·.2)

/-- Whether a document may stand as the value of a name. -/
def isVoid : Source → Document → Bool
  | _, .null => true
  | .held, .object [] => true
  | _, _ => false

/-- One of several names. -/
def choice (table : List (String × α)) : Decoder α
  | _, .string name => entry? table name
  | s, .object [(name, d)] => if isVoid s d then entry? table name else none
  | _, _ => none

end Decoder

/-! ## 3. Records -/

/-- What a document says about one field: nothing, because the member is missing or because the
array is too short, or a document. -/
inductive Field where
  | missing
  | beyond
  | given (d : Document)

namespace Field

/-- A field that must be given. -/
def required (decode : Decoder α) (s : Source) : Field → Option α
  | .given d => decode s d
  | _ => none

/-- A field with a default. -/
def getD (decode : Decoder α) (fallback : α) (s : Source) : Field → Option α
  | .given d => decode s d
  | _ => some fallback

/-- A field that may be null, and missing in an object. -/
def nullable (decode : Decoder α) (s : Source) : Field → Option (Option α)
  | .given d => Decoder.optional decode s d
  | .missing => some none
  | .beyond => none

/-- A field that may be null, and missing altogether. -/
def omittable (decode : Decoder α) (s : Source) : Field → Option (Option α)
  | .given d => Decoder.optional decode s d
  | _ => some none

end Field

/-- The members of an object under a key. -/
def membersUnder (key : String) (members : List (String × Document)) : List Document :=
  (members.filter fun m => m.1 = key).map (·.2)

/-- What a document says about the fields with some names. -/
def fields? (names : List String) : Document → Option (List Field)
  | .object members => names.mapM fun name =>
    match membersUnder name members with
    | [] => some .missing
    | [d] => some (.given d)
    | _ => none
  | .array items =>
    if items.length ≤ names.length then
      some (items.map .given ++ List.replicate (names.length - items.length) .beyond)
    else none
  | _ => none

/-! ## 4. Records of several kinds -/

/-- The kind that a document names. -/
def kind? (kinds : List String) : Source → Document → Option String
  | _, .string name => if name ∈ kinds then some name else none
  | .held, .number (.integer i) => if 0 ≤ i then kinds[i.toNat]? else none
  | _, _ => none

/-- The kind of a record, and what is written beside it. -/
def tagged? (key : String) (kinds : List String) (s : Source) : Document →
    Option (String × Document)
  | .object members =>
    match membersUnder key members with
    | [d] => do
      let name ← kind? kinds s d
      let others := members.filter fun m => m.1 ≠ key
      if others.all fun m => m.2.isReadable then some (name, .object others) else none
    | _ => none
  | .array (d :: items) => do
    let name ← kind? kinds s d
    if items.all Document.isReadable then some (name, .array items) else none
  | _ => none

/-- What may be written beside a kind that has no fields: any members, but no items. -/
def noFields : Document → Option Unit
  | .object _ => some ()
  | .array [] => some ()
  | _ => none

end Workgraph.Json
