import Workgraph.Fault
import Workgraph.Json
import Workgraph.Text.Blank
import Workgraph.Text.Integer
import Workgraph.Width

/-!
# Dot paths

A dot path such as `user.profile.name` leads into a value, segment by segment; blanks around the
path and around each segment do not count.

* `segments` splits a path, or says what is wrong with it;
* `getPath?` reads along a path: through objects by key and through arrays by position;
* `setPath` writes along a path: what is no object on the way is replaced by an object.
-/

namespace Workgraph.Json

/-! ## 1. Segments -/

/-- The pieces of a list of characters between the separators. -/
def splitOn (sep : Char) : List Char → List (List Char)
  | [] => [[]]
  | c :: cs =>
    if c = sep then [] :: splitOn sep cs
    else match splitOn sep cs with
      | [] => [[c]]
      | piece :: pieces => (c :: piece) :: pieces

/-- The segments of a path. -/
def segments (path : String) : Except Fault (List String) :=
  if Text.isAllBlank path then .error (.badPath path .blank)
  else
    let pieces := (splitOn '.' path.toList).map fun cs => Text.trim (String.ofList cs)
    if "" ∈ pieces then .error (.badPath path .blankSegment) else .ok pieces

/-! ## 2. Reading -/

/-- One step into a value. -/
def step? (v : Json) (segment : String) : Option Json :=
  match v with
  | .object members => Keyed.get? members segment
  | .array items => (Text.natural? Width.natural64 segment).bind fun i => items[i]?
  | _ => none

/-- What stands at the end of some segments. -/
def getSegments? : Json → List String → Option Json
  | v, [] => some v
  | v, s :: ss => (step? v s).bind fun w => getSegments? w ss

/-- What stands at the end of a path; nothing when the path is malformed or leads nowhere. -/
def getPath? (v : Json) (path : String) : Option Json :=
  match segments path with
  | .ok ss => getSegments? v ss
  | .error _ => none

/-! ## 3. Writing -/

/-- The members of an object; any other value counts as an object without members. -/
def membersOrNone : Json → List (String × Json)
  | .object members => members
  | _ => []

/-- The value with `w` put at the end of some segments. -/
def setSegments (w : Json) : Json → List String → Json
  | _, [] => w
  | v, s :: ss =>
    let members := membersOrNone v
    let inner := (Keyed.get? members s).getD (.object [])
    .object (Keyed.set members s (setSegments w inner ss))

/-- The value with `w` put at the end of a path. -/
def setPath (v : Json) (path : String) (w : Json) : Except Fault Json :=
  (segments path).map (setSegments w v)

end Workgraph.Json
