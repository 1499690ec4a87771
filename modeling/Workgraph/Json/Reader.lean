import Workgraph.Json.Document

/-!
# Reading JSON text

`Document.ofText?` reads a whole text: one value between blanks, and nothing after it. The grammar
is the strict one: no comments, no trailing commas, no leading zeros or plus signs, no raw control
characters in strings, no byte order mark.

The reader of a value is given how many arrays and objects may still be opened; below that it goes
on reading but keeps nothing (`unreadable`). Its fuel is the length of the text: every call but the
last takes a character.
-/

namespace Workgraph.Json

/-- What is left of a text. -/
abbrev Rest := List Char

/-! ## 1. Blanks and digits -/

/-- The four blanks that may stand between the parts of a text. -/
def isGap (c : Char) : Bool := c = ' ' || c = '\n' || c = '\t' || c = '\r'

def skipGap (cs : Rest) : Rest := cs.dropWhile isGap

/-- The leading digits and the rest. -/
def takeDigits (cs : Rest) : List Char × Rest := cs.span Char.isDigit

/-- The rest after a word. -/
def expect? (word : List Char) (cs : Rest) : Option Rest :=
  if word.isPrefixOf cs then some (cs.drop word.length) else none

/-! ## 2. Numbers -/

/-- The exponent of a number, if one follows. -/
def readExponent? : Rest → Option (Option (Bool × List Char) × Rest)
  | c :: cs =>
    if c = 'e' ∨ c = 'E' then
      let (down, cs) : Bool × Rest := match cs with
        | '+' :: r => (false, r)
        | '-' :: r => (true, r)
        | r => (false, r)
      match takeDigits cs with
      | ([], _) => none
      | (ds, r) => some (some (down, ds), r)
    else some (none, c :: cs)
  | [] => some (none, [])

/-- The fraction of a number, if one follows. -/
def readFraction? : Rest → Option (Option (List Char) × Rest)
  | '.' :: cs =>
    match takeDigits cs with
    | ([], _) => none
    | (ds, r) => some (some ds, r)
  | cs => some (none, cs)

/-- The literal of a number after its sign. -/
def readLiteral? (negative : Bool) (cs : Rest) : Option (Number.Literal × Rest) := do
  let (whole, r) ← match cs with
    | '0' :: c :: r => if c.isDigit then none else some (['0'], c :: r)
    | cs => match takeDigits cs with
      | ([], _) => none
      | (ds, r) => some (ds, r)
  let (fraction, r) ← readFraction? r
  let (exponent, r) ← readExponent? r
  return ({ negative, whole, fraction, exponent }, r)

/-! ## 3. Strings -/

/-- The value of a hexadecimal digit. -/
def hexValue? (c : Char) : Option Nat :=
  if '0' ≤ c ∧ c ≤ '9' then some (c.toNat - '0'.toNat)
  else if 'a' ≤ c ∧ c ≤ 'f' then some (c.toNat - 'a'.toNat + 10)
  else if 'A' ≤ c ∧ c ≤ 'F' then some (c.toNat - 'A'.toNat + 10)
  else none

/-- The number written by four hexadecimal digits. -/
def hex4? (a b c d : Char) : Option Nat := do
  return ((← hexValue? a) * 16 + (← hexValue? b)) * 256 + (← hexValue? c) * 16 + (← hexValue? d)

/-- The character that a one-letter escape denotes. -/
def shortEscape? (c : Char) : Option Char :=
  if c = '"' then some '"'
  else if c = '\\' then some '\\'
  else if c = '/' then some '/'
  else if c = 'b' then some (Char.ofNat 8)
  else if c = 'f' then some (Char.ofNat 12)
  else if c = 'n' then some '\n'
  else if c = 'r' then some '\r'
  else if c = 't' then some '\t'
  else none

def isHighSurrogate (n : Nat) : Bool := 0xD800 ≤ n && n < 0xDC00

def isLowSurrogate (n : Nat) : Bool := 0xDC00 ≤ n && n < 0xE000

/-- The character of a surrogate pair. -/
def fromSurrogates (high low : Nat) : Char :=
  Char.ofNat (0x10000 + (high - 0xD800) * 0x400 + (low - 0xDC00))

/-- What one escape `\uXXXX` stands for: a character, or half of a surrogate pair. -/
def unitChar? (n : Nat) : Option Char :=
  if isHighSurrogate n ∨ isLowSurrogate n then none else some (Char.ofNat n)

/-- The characters of a string up to its closing quote. `good` tells whether they all have a value:
half of a surrogate pair has none. -/
def readString? (good : Bool) (acc : List Char) (cs : Rest) : Option (Option String × Rest) :=
  match cs with
  | '"' :: r => some (if good then some (String.ofList acc.reverse) else none, r)
  | '\\' :: 'u' :: a :: b :: c :: d :: '\\' :: 'u' :: e :: f :: g :: h :: r =>
    match hex4? a b c d with
    | none => none
    | some n =>
      match isHighSurrogate n, hex4? e f g h with
      | true, none => none
      | true, some m =>
        if isLowSurrogate m then readString? good (fromSurrogates n m :: acc) r
        else readString? false acc r
      | false, _ =>
        let r := '\\' :: 'u' :: e :: f :: g :: h :: r
        match unitChar? n with
        | some x => readString? good (x :: acc) r
        | none => readString? false acc r
  | '\\' :: 'u' :: a :: b :: c :: d :: r =>
    match hex4? a b c d with
    | none => none
    | some n =>
      match unitChar? n with
      | some x => readString? good (x :: acc) r
      | none => readString? false acc r
  | '\\' :: c :: r =>
    match shortEscape? c with
    | some e => readString? good (e :: acc) r
    | none => none
  | c :: r => if c.toNat < 32 then none else readString? good (c :: acc) r
  | [] => none
termination_by cs.length

/-! ## 4. Values -/

/-- An array or object, kept only while more may be opened. -/
private def kept (depth : Nat) (d : Document) : Document :=
  if depth = 0 then .unreadable else d

mutual

/-- The value at the beginning of a text without leading blanks. -/
def readValue? (fuel depth : Nat) (cs : Rest) : Option (Document × Rest) :=
  match fuel with
  | 0 => none
  | fuel + 1 =>
    match cs with
    | '[' :: r =>
      match skipGap r with
      | ']' :: r => some (kept depth (.array []), r)
      | r => readItems? fuel depth [] r
    | '\x7b' :: r =>
      match skipGap r with
      | '\x7d' :: r => some (kept depth (.object []), r)
      | r => readMembers? fuel depth true [] r
    | '"' :: r => (readString? true [] r).map fun (s, r) =>
      (match s with | some s => .string s | none => .unreadable, r)
    | '-' :: r => (readLiteral? true r).map fun (l, r) =>
      (match l.number? with | some n => .number n | none => .unreadable, r)
    | 'n' :: r => (expect? ['u', 'l', 'l'] r).map (.null, ·)
    | 't' :: r => (expect? ['r', 'u', 'e'] r).map (.bool true, ·)
    | 'f' :: r => (expect? ['a', 'l', 's', 'e'] r).map (.bool false, ·)
    | cs => (readLiteral? false cs).map fun (l, r) =>
      (match l.number? with | some n => .number n | none => .unreadable, r)

/-- The items of an array from the next one on. -/
def readItems? (fuel depth : Nat) (acc : List Document) (cs : Rest) : Option (Document × Rest) :=
  match fuel with
  | 0 => none
  | fuel + 1 =>
    match readValue? fuel (depth - 1) (skipGap cs) with
    | none => none
    | some (d, r) =>
      match skipGap r with
      | ',' :: r => readItems? fuel depth (d :: acc) r
      | ']' :: r => some (kept depth (.array (d :: acc).reverse), r)
      | _ => none

/-- The members of an object from the next one on; `good` tells whether all keys have a value. -/
def readMembers? (fuel depth : Nat) (good : Bool) (acc : List (String × Document)) (cs : Rest) :
    Option (Document × Rest) :=
  match fuel with
  | 0 => none
  | fuel + 1 =>
    match skipGap cs with
    | '"' :: r =>
      match readString? true [] r with
      | none => none
      | some (key, r) =>
        match skipGap r with
        | ':' :: r =>
          match readValue? fuel (depth - 1) (skipGap r) with
          | none => none
          | some (d, r) =>
            let good := good && key.isSome
            let acc := (key.getD "", d) :: acc
            match skipGap r with
            | ',' :: r => readMembers? fuel depth good acc r
            | '\x7d' :: r =>
              some (if good then kept depth (.object acc.reverse) else .unreadable, r)
            | _ => none
        | _ => none
    | _ => none

end

/-- The document that a whole text says. -/
def Document.ofText? (s : String) : Option Document :=
  let cs := skipGap s.toList
  match readValue? (cs.length + 1) maxDepth cs with
  | some (d, r) => if (skipGap r).isEmpty then some d else none
  | none => none

/-- The value of a whole text. -/
def ofText? (s : String) : Option Json := (Document.ofText? s).bind Document.value?

end Workgraph.Json
