import Workgraph.Json.Decode

/-!
# Passages of a knowledge store

A passage that a search found, with its rank and where it comes from.
-/

namespace Workgraph

open Json (Decoder fields?)

/-- Where a passage comes from. -/
structure Citation where
  source : String
  title : Option String := none
  /-- Page, section or other place within the source. -/
  locator : Option String := none
  deriving DecidableEq, Inhabited

namespace Citation

def decode : Decoder Citation := fun s d => do
  let [source, title, locator] ← fields? ["source", "title", "locator"] d | none
  return {
    source := ← source.required .string s
    title := ← title.omittable .string s
    locator := ← locator.omittable .string s }

def encode (c : Citation) : Json := .ofMembers
  [("source", .string c.source), ("title", .ofOption .string c.title),
    ("locator", .ofOption .string c.locator)]

/-- A citation in brackets before a passage: the title with the source, or the source alone. -/
def heading (c : Citation) : String :=
  match c.title with
  | some title => title ++ " (" ++ c.source ++ ")"
  | none => c.source

end Citation

structure Passage where
  text : String
  score : Binary64
  citation : Citation
  deriving DecidableEq, Inhabited

namespace Passage

def decode : Decoder Passage := fun s d => do
  let [text, score, citation] ← fields? ["text", "score", "citation"] d | none
  return {
    text := ← text.required .string s
    score := ← score.required .real s
    citation := ← citation.required Citation.decode s }

def encode (p : Passage) : Json := .ofMembers
  [("text", .string p.text), ("score", .ofReal p.score), ("citation", p.citation.encode)]

end Passage

/-- A search in a knowledge store. -/
structure Search where
  queries : List String
  storeId : String
  topK : Nat
  deriving DecidableEq, Inhabited

namespace Search

def encode (s : Search) : Json := .ofMembers
  [("queries", .ofStrings s.queries), ("storeId", .string s.storeId), ("topK", .ofNat s.topK)]

end Search

end Workgraph
