import Workgraph.Json.Printer
import Workgraph.Json.Reader
import Workgraph.Script.Conversion

/-!
# JSON text of script values

* `JsonText.write` writes a value: undefined and functions have no text and are left out of objects,
  numbers that are not finite are null, a lone surrogate is written as an escape. A value's own
  `toJSON`, a replacing function or a list of keys changes what is written (`Shape`);
* `JsonText.read` makes the value that a text says; of two members with one key the later counts;
  `readRevised` has a function go over its parts, the innermost first.
-/

namespace Workgraph.Script.JsonText

open Machine Conversion

/-! ## 1. Writing -/

private def hexDigits (n : Nat) : List Char :=
  let ds := Nat.toDigits 16 n
  List.replicate (4 - ds.length) '0' ++ ds

/-- Appends a text as a JSON string. -/
def addQuoted (out : Units) (u : Units) : Units :=
  let quote : UInt16 := 34
  let inner := u.decode.foldl (fun acc p => match p with
    | .char c => if Json.isPlain c then acc ++ Units.ofChar c
      else acc ++ (Json.escaped c).flatMap Units.ofChar
    | .lone v => acc ++ ('\\' :: 'u' :: hexDigits v.toNat).flatMap Units.ofChar) (out.push quote)
  inner.push quote

/-- What shapes a text: a function that replaces values, the keys that are written, and the gap that
parts on lines of their own are set in by. -/
structure Shape where
  call : Caller
  replacer : Option Value := none
  allowed : Option (List Key) := none
  gap : Units := #[]

def toJsonKey : Key := .ofString "toJSON"

/-- A number, text or truth value that an object stands for, or the value itself. -/
def unboxed (call : Caller) (v : Value) : Action Value := do
  match ← content? v with
  | some (.boxed (.number _)) => return .number (← number call v)
  | some (.boxed (.text _)) => return .text (← text call v)
  | some (.boxed b) => return b
  | _ => return v

/-- The value that is written for one under a key: what its own `toJSON` gives, then what the
replacer makes of it. -/
def replaced (s : Shape) (holder : Value) (k : Key) (v : Value) : Action Value := do
  let v ←
    if v.isObject then do
      let f ← member v toJsonKey
      if ← isCallable f then s.call f v [.text k.units] else pure v
    else pure v
  let v ← match s.replacer with
    | some f => s.call f holder [.text k.units, v]
    | none => pure v
  unboxed s.call v

/-- Whether a value has a JSON text. -/
def isWritten (v : Value) : Action Bool := do
  match v with
  | .undefined => return false
  | v => return !(← isCallable v)

/-- The line break before a part at a depth, when parts are put on lines of their own. -/
def lineBreak (gap : Units) (depth : Nat) : Units :=
  if gap.isEmpty then #[] else (List.replicate depth gap).foldl (· ++ ·) #[10]

/-- Appends a part behind those before it. -/
def separated (breakLine : Units) (out : Units) (first : Bool) : Units :=
  (if first then out else out.push 44) ++ breakLine

/-- Appends the items of a list from position `i` on, each by `add`. -/
def addItems (s : Shape) (add : Units → Value → Action Units) (list : Value) (breakLine : Units) :
    Nat → Nat → Units → Action Units
  | 0, _, out => return out
  | n + 1, i, out => do
    let v ← replaced s list (.ofNat i) (← member list (.ofNat i))
    addItems s add list breakLine n (i + 1) (← add (separated breakLine out (i == 0)) v)

/-- Appends the members under some keys, each by `add`, and says whether there were none. -/
def addMembers (s : Shape) (add : Units → Value → Action Units) (o : Value) (breakLine : Units) :
    List Key → Bool → Units → Action (Bool × Units)
  | [], first, out => return (first, out)
  | k :: ks, first, out => do
    let v ← replaced s o k (← member o k)
    if ← isWritten v then
      let colon := Units.ofString (if s.gap.isEmpty then ":" else ": ")
      let out := addQuoted (separated breakLine out first) k.units ++ colon
      addMembers s add o breakLine ks false (← add out v)
    else addMembers s add o breakLine ks first out

/-- Appends the text of a value, where `seen` are the objects around it. -/
def add (s : Shape) : Nat → List Nat → Units → Value → Action Units
  | 0, _, _, _ => throw (.limit .recursion)
  | fuel + 1, seen, out, v => do
    match v with
    | .null | .undefined => return out ++ Units.ofString "null"
    | .bool b => return out ++ Units.ofString (if b then "true" else "false")
    | .number x => return out ++ Units.ofString (if x.isFinite then Numeral.text x else "null")
    | .text u => return addQuoted out u
    | .object address =>
      if ← isCallable v then return out ++ Units.ofString "null"
      else if address ∈ seen then raiseError .type "cyclic object value"
      else
        let seen := address :: seen
        let inner := lineBreak s.gap seen.length
        let outer := lineBreak s.gap (seen.length - 1)
        match (← objectAt address).content with
        | .list n =>
          if n = 0 then return out ++ Units.ofString "[]"
          else
            let out ← addItems s (add s fuel seen) v inner n 0 (out.push 91)
            return (out ++ outer).push 93
        | _ =>
          let keys ← match s.allowed with
            | some keys => pure keys
            | none => do pure (← objectAt address).keys
          let (empty, out) ← addMembers s (add s fuel seen) v inner keys true (out.push 123)
          return (if empty then out else out ++ outer).push 125

/-- More levels than objects can be nested, some of them made while the text is written. -/
def levels : Action Nat := return (← get).objects.size + 10000

/-- The keys that a list names, each once: its texts and numbers, also as objects. -/
def namedKeys (call : Caller) (list : Value) : Nat → Nat → List Key → Action (List Key)
  | 0, _, keys => return keys.reverse
  | n + 1, i, keys => do
    let v ← member list (.ofNat i)
    let isName ← match v, ← content? v with
      | .text _, _ | .number _, _ => pure true
      | _, some (.boxed (.text _)) | _, some (.boxed (.number _)) => pure true
      | _, _ => pure false
    let keys ←
      if isName then do
        let k := Key.ofUnits (← text call v)
        pure (if k ∈ keys then keys else k :: keys)
      else pure keys
    namedKeys call list n (i + 1) keys

/-- The shape that a replacer asks for: a function, or a list of keys. -/
def shapeOf (call : Caller) (replacer : Value) : Action Shape := do
  if ← isCallable replacer then return { call, replacer := some replacer }
  else
    match replacer with
    | .object address =>
      if ← isList replacer then
        let keys ← namedKeys call replacer (← lengthOf call address) 0 []
        return { call, allowed := some keys }
      else return { call }
    | _ => return { call }

/-- The gap that an argument asks for: up to ten blanks, or up to ten units of a text. -/
def gapOf (call : Caller) (v : Value) : Action Units := do
  match ← unboxed call v with
  | .number x =>
    return if x ≥ 1.0 then Array.replicate (clamp 10 x.floor) 32 else #[]
  | .text u => return u.extract 0 10
  | _ => return #[]

/-- The text of a value, if it has one. -/
def write (call : Caller) (v replacer gap : Value) : Action Value := do
  let s ← shapeOf call replacer
  let s := { s with gap := ← gapOf call gap }
  let holder ← match s.replacer with
    | some _ => make (emptyRecord.set (.name #[]) v)
    | none => pure .undefined
  let v ← replaced s holder (.name #[]) v
  if ← isWritten v then return .text (← add s (← levels) [] #[] v)
  else return .undefined

/-! ## 2. Reading -/

/-- What a JSON text says. -/
inductive Datum where
  | null
  | bool (value : Bool)
  | number (value : Float)
  | text (value : Units)
  | list (items : List Datum)
  | record (members : List (Units × Datum))

/-- The units of a string up to its closing quote, behind those in `acc`. -/
def readUnits? (acc : Units) : List Char → Option (Units × List Char)
  | '"' :: r => some (acc, r)
  | '\\' :: 'u' :: a :: b :: c :: d :: r =>
    match Json.hex4? a b c d with
    | some n => readUnits? (acc.push n.toUInt16) r
    | none => none
  | '\\' :: c :: r =>
    match Json.shortEscape? c with
    | some e => readUnits? (acc ++ Units.ofChar e) r
    | none => none
  | c :: r => if c.toNat < 32 then none else readUnits? (acc ++ Units.ofChar c) r
  | [] => none

/-- The number of a literal. -/
def literalValue (l : Json.Number.Literal) : Float :=
  let digits (cs : List Char) : List Nat := (Numeral.readDigits 10 [] cs).1
  let places := digits (l.fraction.getD [])
  let e : Int := match l.exponent with
    | some (down, ds) =>
      let e : Int := Numeral.exactValue 10 (digits ds)
      if down then -e else e
    | none => 0
  Numeral.signed l.negative
    (Numeral.scaled (Numeral.exactValue 10 (digits l.whole ++ places)) (e - places.length))

mutual

/-- The value at the beginning of a text without leading blanks. -/
def readDatum? (fuel : Nat) (cs : List Char) : Option (Datum × List Char) :=
  match fuel with
  | 0 => none
  | fuel + 1 =>
    match cs with
    | '[' :: r =>
      match Json.skipGap r with
      | ']' :: r => some (.list [], r)
      | r => readListItems? fuel [] r
    | '\x7b' :: r =>
      match Json.skipGap r with
      | '\x7d' :: r => some (.record [], r)
      | r => readRecordMembers? fuel [] r
    | '"' :: r => (readUnits? #[] r).map fun (u, r) => (.text u, r)
    | '-' :: r => (Json.readLiteral? true r).map fun (l, r) => (.number (literalValue l), r)
    | 'n' :: r => (Json.expect? ['u', 'l', 'l'] r).map (.null, ·)
    | 't' :: r => (Json.expect? ['r', 'u', 'e'] r).map (.bool true, ·)
    | 'f' :: r => (Json.expect? ['a', 'l', 's', 'e'] r).map (.bool false, ·)
    | cs => (Json.readLiteral? false cs).map fun (l, r) => (.number (literalValue l), r)

/-- The items of a list from the next one on. -/
def readListItems? (fuel : Nat) (acc : List Datum) (cs : List Char) :
    Option (Datum × List Char) :=
  match fuel with
  | 0 => none
  | fuel + 1 =>
    match readDatum? fuel (Json.skipGap cs) with
    | none => none
    | some (d, r) =>
      match Json.skipGap r with
      | ',' :: r => readListItems? fuel (d :: acc) r
      | ']' :: r => some (.list (d :: acc).reverse, r)
      | _ => none

/-- The members of a record from the next one on. -/
def readRecordMembers? (fuel : Nat) (acc : List (Units × Datum)) (cs : List Char) :
    Option (Datum × List Char) :=
  match fuel with
  | 0 => none
  | fuel + 1 =>
    match Json.skipGap cs with
    | '"' :: r =>
      match readUnits? #[] r with
      | none => none
      | some (key, r) =>
        match Json.skipGap r with
        | ':' :: r =>
          match readDatum? fuel (Json.skipGap r) with
          | none => none
          | some (d, r) =>
            match Json.skipGap r with
            | ',' :: r => readRecordMembers? fuel ((key, d) :: acc) r
            | '\x7d' :: r => some (.record ((key, d) :: acc).reverse, r)
            | _ => none
        | _ => none
    | _ => none

end

mutual

/-- Makes the value of a datum. -/
def build : Datum → Action Value
  | .null => return .null
  | .bool b => return .bool b
  | .number x => return .number x
  | .text u => return .text u
  | .list items => do makeList (← buildItems items #[])
  | .record members => do make (← buildMembers members emptyRecord)

def buildItems : List Datum → Array Value → Action (Array Value)
  | [], acc => return acc
  | d :: ds, acc => do buildItems ds (acc.push (← build d))

def buildMembers : List (Units × Datum) → Obj → Action Obj
  | [], o => return o
  | (k, d) :: ds, o => do buildMembers ds (o.set (.ofUnits k) (← build d))

end

/-- The value that a whole text says. The text must be one that JSON values are read from: numbers
in range, no lone surrogate, containers nested within the bound. -/
def read (u : Units) : Action Value := do
  let cs := Json.skipGap u.chars
  match u.toString?.bind Json.ofText?, readDatum? (cs.length + 1) cs with
  | some _, some (d, _) => build d
  | _, _ => raiseError .form "malformed JSON"

/-! ## 3. Revising what was read -/

/-- Applies `revise` to the parts of an object under some keys; a part that becomes undefined is
taken out. -/
def reviseParts (revise : Key → Action Value) (address : Nat) : List Key → Action Unit
  | [] => return
  | k :: ks => do
    match ← revise k with
    | .undefined => changeObject address fun o => o.erase k
    | v => changeObject address fun o => o.set k v
    reviseParts revise address ks

/-- What a function makes of the value under a key, after what it made of the value's parts. -/
def revise (call : Caller) (f : Value) : Nat → Value → Key → Action Value
  | 0, _, _ => throw (.limit .recursion)
  | fuel + 1, holder, k => do
    let v ← member holder k
    if let .object address := v then
      let keys ←
        if ← isList v then do
          pure ((List.range (← lengthOf call address)).map Key.ofNat)
        else do pure (← objectAt address).keys
      reviseParts (revise call f fuel v) address keys
    call f holder [.text k.units, v]

/-- The value that a whole text says, revised by a function if there is one. -/
def readRevised (call : Caller) (u : Units) (reviver : Value) : Action Value := do
  let v ← read u
  if ← isCallable reviver then
    let holder ← make (emptyRecord.set (.name #[]) v)
    revise call reviver (← levels) holder (.name #[])
  else return v

end Workgraph.Script.JsonText
