/-!
# Maps from texts, kept as lists sorted by key

A finite map from texts is a list of pairs in which the keys ascend by code point. Two maps with
the same entries are then the same list, and writing a map out needs no sorting.

* `get?` reads the entry of a key, `set` writes one, `erase` removes one;
* `ofList` builds a map from pairs in any order, where the last pair of a key wins;
* `Ascending` says that a list is such a map.
-/

namespace Workgraph

/-- Pairs of a text and a value, meant to be read as a map. -/
abbrev Keyed (α : Type u) := List (String × α)

namespace Keyed

variable {α : Type u}

/-- The value that a key has. -/
def get? (m : Keyed α) (k : String) : Option α :=
  match m with
  | [] => none
  | (k', v) :: rest => if k' = k then some v else get? rest k

/-- The map with the value of `k` replaced, or added in its place in the order. -/
def set (m : Keyed α) (k : String) (v : α) : Keyed α :=
  match m with
  | [] => [(k, v)]
  | (k', v') :: rest =>
    if k' = k then (k, v) :: rest
    else if k < k' then (k, v) :: (k', v') :: rest
    else (k', v') :: set rest k v

/-- The map without the key `k`. -/
def erase (m : Keyed α) (k : String) : Keyed α := m.filter fun e => e.1 ≠ k

/-- The map of some pairs; of two pairs with one key the later counts. -/
def ofList (entries : List (String × α)) : Keyed α :=
  entries.foldl (fun m e => m.set e.1 e.2) []

/-- The keys ascend, so no key occurs twice. -/
def Ascending (m : Keyed α) : Prop := m.Pairwise fun a b => a.1 < b.1

theorem get?_set_self (m : Keyed α) (k : String) (v : α) : (m.set k v).get? k = some v := by
  induction m with
  | nil => simp [set, get?]
  | cons e rest ih =>
    obtain ⟨k', v'⟩ := e
    by_cases h : k' = k
    · simp [set, get?, h]
    · by_cases hlt : k < k' <;> simp [set, get?, h, hlt, ih]

theorem get?_set_of_ne (m : Keyed α) {k j : String} (v : α) (h : k ≠ j) :
    (m.set k v).get? j = m.get? j := by
  induction m with
  | nil => simp [set, get?, h]
  | cons e rest ih =>
    obtain ⟨k', v'⟩ := e
    by_cases hk : k' = k
    · subst hk; simp [set, get?, h]
    · by_cases hlt : k < k' <;> simp [set, get?, h, hk, hlt, ih]

theorem get?_set (m : Keyed α) (k j : String) (v : α) :
    (m.set k v).get? j = if k = j then some v else m.get? j := by
  by_cases h : k = j
  · subst h; simp [get?_set_self]
  · simp [h, get?_set_of_ne m v h]

end Keyed

end Workgraph
