import Workgraph.Json

/-!
# JSON text

* `Json.compact` writes a value without blanks, members in key order;
* `Json.pretty` writes it over several lines, two blanks per level; an empty array or object stays
  on its line;
* `quoted` writes a text as a JSON string: the quote, the backslash and the control characters are
  escaped, every other character stands for itself.
-/

namespace Workgraph.Json

/-! ## 1. Strings -/

private def hexDigit (n : Nat) : Char := (Nat.toDigits 16 n).headD '0'

/-- How a character is written inside a string. -/
def escaped (c : Char) : List Char :=
  if c = '"' then ['\\', '"']
  else if c = '\\' then ['\\', '\\']
  else if c = '\n' then ['\\', 'n']
  else if c = '\r' then ['\\', 'r']
  else if c = '\t' then ['\\', 't']
  else if c.toNat = 8 then ['\\', 'b']
  else if c.toNat = 12 then ['\\', 'f']
  else if c.toNat < 32 then ['\\', 'u', '0', '0', hexDigit (c.toNat / 16), hexDigit (c.toNat % 16)]
  else [c]

/-- The characters of a text inside a JSON string. -/
def escapedText (s : String) : List Char := s.toList.flatMap escaped

/-- Whether a character needs no escape. -/
def isPlain (c : Char) : Bool := c != '"' && c != '\\' && 32 ≤ c.toNat

/-- A text as a JSON string. -/
def quoted (s : String) : String :=
  if s.all isPlain then "\"" ++ s ++ "\"" else "\"" ++ String.ofList (escapedText s) ++ "\""

/-! ## 2. Compact text -/

mutual

/-- Appends the compact text of a value to a text. -/
def addCompact (out : String) : Json → String
  | .null => out ++ "null"
  | .bool b => out ++ (if b then "true" else "false")
  | .number n => out ++ n.text
  | .string s => out ++ quoted s
  | .array items => addItems (out ++ "[") true items ++ "]"
  | .object members => addMembers (out ++ "\x7b") true members ++ "\x7d"

def addItems (out : String) (first : Bool) : List Json → String
  | [] => out
  | v :: vs => addItems (addCompact (if first then out else out ++ ",") v) false vs

def addMembers (out : String) (first : Bool) : List (String × Json) → String
  | [] => out
  | (k, v) :: ms =>
    addMembers (addCompact ((if first then out else out ++ ",") ++ quoted k ++ ":") v) false ms

end

/-- A value without blanks. -/
def compact (v : Json) : String := addCompact "" v

/-! ## 3. Text over several lines -/

private def newLine (depth : Nat) : String :=
  String.ofList ('\n' :: List.replicate (2 * depth) ' ')

mutual

/-- Appends the text of a value over several lines, at a depth of nesting. -/
def addPretty (depth : Nat) (out : String) : Json → String
  | .array [] => out ++ "[]"
  | .array (v :: vs) =>
    addPrettyItems (depth + 1) (addPretty (depth + 1) (out ++ "[" ++ newLine (depth + 1)) v) vs
      ++ newLine depth ++ "]"
  | .object [] => out ++ "\x7b\x7d"
  | .object ((k, v) :: ms) =>
    addPrettyMembers (depth + 1)
      (addPretty (depth + 1) (out ++ "\x7b" ++ newLine (depth + 1) ++ quoted k ++ ": ") v) ms
      ++ newLine depth ++ "\x7d"
  | v => addCompact out v

def addPrettyItems (depth : Nat) (out : String) : List Json → String
  | [] => out
  | v :: vs => addPrettyItems depth (addPretty depth (out ++ "," ++ newLine depth) v) vs

def addPrettyMembers (depth : Nat) (out : String) : List (String × Json) → String
  | [] => out
  | (k, v) :: ms =>
    addPrettyMembers depth (addPretty depth (out ++ "," ++ newLine depth ++ quoted k ++ ": ") v) ms

end

/-- A value over several lines. -/
def pretty (v : Json) : String := addPretty 0 "" v

end Workgraph.Json
