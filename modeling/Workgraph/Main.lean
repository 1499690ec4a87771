import Workgraph.CommandLine

/-!
# The program

Reads the files that the arguments name, prints the answer and exits with its code.
-/

namespace Workgraph

/-- Why a file cannot be read, with the number that the system gives the reason. -/
def readFailure : IO.Error → String
  | .noFileOrDirectory _ _ _ => "No such file or directory (os error 2)"
  | .permissionDenied _ _ _ => "Permission denied (os error 13)"
  | .inappropriateType _ code _ =>
    if code = 21 then "Is a directory (os error 21)" else "Not a directory (os error 20)"
  | .userError _ => "stream did not contain valid UTF-8"
  | e => toString e

/-- Reads some files. -/
def readFiles : List String → IO (List (String × Except String String))
  | [] => return []
  | path :: paths => do
    let text ← try
        pure (Except.ok (← IO.FS.readFile path))
      catch e => pure (Except.error (readFailure e))
    return (path, text) :: (← readFiles paths)

/-- A file among those that were read. -/
def lookUp (files : List (String × Except String String)) (path : String) : Except String String :=
  match files.find? fun f => f.1 = path with
  | some (_, text) => text
  | none => .error "No such file or directory (os error 2)"

/-- The digits of an id. -/
def hexText (n places : Nat) : String :=
  let ds := Nat.toDigits 16 n
  String.ofList (List.replicate (places - ds.length) '0' ++ ds)

/-- A random id of five groups of digits, marked as random in the third and fourth. -/
def randomId : IO String := do
  let a ← IO.rand 0 0xffffffff
  let b ← IO.rand 0 0xffff
  let c ← IO.rand 0 0xfff
  let d ← IO.rand 0 0x3fff
  let e ← IO.rand 0 0xffffffffffff
  return "-".intercalate [hexText a 8, hexText b 4, "4" ++ hexText c 3, hexText (0x8000 + d) 4,
    hexText e 12]

/-- What the arguments lead to. -/
def answerArguments (args : List String) : IO Answer := do
  match Invocation.ofArguments? args with
  | none => return .misuse
  | some i =>
    let files ← readFiles i.files
    return i.answer (lookUp files) (← randomId)

end Workgraph

def main (args : List String) : IO UInt32 := do
  let answer ← Workgraph.answerArguments args
  for line in answer.err do
    IO.eprintln line
  IO.print answer.out
  return answer.code.toUInt32
