import Workgraph.Graph.Port
import Workgraph.Graph.NodeBody
import Workgraph.Json.Path
import Workgraph.Json.Printer
import Workgraph.Text.Ascii
import Workgraph.Text.Blank
import Workgraph.Text.Integer
import Workgraph.Width

/-!
# Choosing a case

`SwitchBody.portFor` says through which output a switch is left, given the value of its selector:

* a whole number means the case with that number, the first or last case when it is out of range;
* a text that is the label of a case means that case, whatever the case of its letters;
* `case-` and a number means that case, which must exist;
* any other text must be a whole number.
-/

namespace Workgraph

namespace SwitchBody

/-- The output of the case nearest to a number. -/
def nearestCase (b : SwitchBody) (i : Int) : String :=
  PortId.case (max 0 (min i (b.caseCount - 1))).toNat

/-- Whether a label names a case: it is not blank and differs from the text in case at most. -/
def labelMatches (text label : String) : Bool :=
  !Text.isAllBlank label && Text.sameIgnoringAsciiCase (Text.trim label) text

/-- The case whose label is a text. -/
def labelled? (b : SwitchBody) (text : String) : Option Nat :=
  (b.labels.take b.caseCount).findIdx? (labelMatches text)

/-- The output that a text names. -/
def portForText (b : SwitchBody) (s : String) : Except String String :=
  let text := Text.trim s
  match b.labelled? text with
  | some i => .ok (PortId.case i)
  | none =>
    match Text.after? PortId.caseStem (Text.lowerAscii text) with
    | some digits =>
      match (Text.natural? Width.natural64 digits).filter (· < b.caseCount) with
      | some i => .ok (PortId.case i)
      | none =>
        .error ("'" ++ text ++ "' does not name one of " ++ toString b.caseCount ++ " cases")
    | none =>
      match Text.integer? Width.least64 Width.greatest64 text with
      | some i => .ok (b.nearestCase i)
      | none => .error ("'" ++ text ++ "' matches no case label")

/-- The output that the value of a selector names, or why it names none. -/
def portFor (b : SwitchBody) : Json → Except String String
  | .number (.integer i) => .ok (b.nearestCase i)
  | .number (.real x) =>
    if x.isWhole then .ok (b.nearestCase x.truncate)
    else .error ("selector returned non-integral number " ++ (Json.Number.real x).text)
  | .string s => b.portForText s
  | v => .error ("selector must return a string or an integer, got " ++ v.compact)

end SwitchBody

end Workgraph
