import Workgraph.Json.Document
import Workgraph.Proofs.Maps

/-!
# Documents and the values they say

A value is written by one document (`Document.ofValue`); many documents may have it as their value.

* the value of a document is written by a document that has the same value (`value?_again`), and
  whatever writes a value is readable;
* `numbers` are the numbers of a document, `depth` counts how many arrays and objects stand inside
  one another, and `Fits` bounds both;
* what writes the value of a document fits where the document does (`Fits.of_value?`).
-/

namespace Workgraph.Json

/-! ## 1. Documents of values -/

namespace Document

theorem ofValues_eq_map (vs : List Json) : ofValues vs = vs.map ofValue := by
  induction vs with
  | nil => rfl
  | cons v vs ih => rw [ofValues, ih, List.map_cons]

theorem ofEntries_eq_map (es : List (String × Json)) :
    ofEntries es = es.map fun e => (e.1, ofValue e.2) := by
  induction es with
  | nil => rfl
  | cons e es ih =>
    obtain ⟨k, v⟩ := e
    rw [ofEntries, ih, List.map_cons]

theorem values?_ofValues {vs : List Json} (h : ∀ v ∈ vs, value? (ofValue v) = some v) :
    values? (ofValues vs) = some vs := by
  induction vs with
  | nil => rfl
  | cons v vs ih =>
    obtain ⟨hv, hvs⟩ := List.forall_mem_cons.mp h
    rw [ofValues, values?, hv, ih hvs]

theorem entries?_ofEntries {es : List (String × Json)}
    (h : ∀ e ∈ es, value? (ofValue e.2) = some e.2) : entries? (ofEntries es) = some es := by
  induction es with
  | nil => rfl
  | cons e es ih =>
    obtain ⟨k, v⟩ := e
    obtain ⟨hv, hes⟩ := List.forall_mem_cons.mp h
    rw [ofEntries, entries?, hv, ih hes]

mutual

/-- The value of a document is written by a document that has it. -/
theorem value?_again : ∀ (d : Document) {v : Json}, value? d = some v → value? (ofValue v) = some v
  | .null, _, h => by cases h; rfl
  | .bool _, _, h => by cases h; rfl
  | .number _, _, h => by cases h; rfl
  | .string _, _, h => by cases h; rfl
  | .unreadable, _, h => by cases h
  | .array items, _, h => by
    obtain ⟨vs, hvs, rfl⟩ := Option.map_eq_some_iff.mp h
    rw [ofValue, value?, values?_ofValues (values?_again items hvs)]
    rfl
  | .object members, _, h => by
    obtain ⟨es, hes, rfl⟩ := Option.map_eq_some_iff.mp h
    have hread : ∀ e ∈ Keyed.ofList es, value? (ofValue e.2) = some e.2 := fun e he =>
      entries?_again members hes e (Keyed.mem_of_mem_ofList he)
    rw [ofMembers, ofValue, value?, entries?_ofEntries hread, Option.map_some, ofMembers,
      Keyed.ofList_of_ascending (Keyed.ascending_ofList es)]

theorem values?_again : ∀ (ds : List Document) {vs : List Json}, values? ds = some vs →
    ∀ v ∈ vs, value? (ofValue v) = some v
  | [], _, h => by cases h; exact fun v hv => absurd hv List.not_mem_nil
  | d :: ds, _, h => by
    rw [values?] at h
    split at h
    · rename_i v vs hv hvs
      cases h
      exact List.forall_mem_cons.mpr ⟨value?_again d hv, values?_again ds hvs⟩
    · cases h

theorem entries?_again : ∀ (ms : List (String × Document)) {es : List (String × Json)},
    entries? ms = some es → ∀ e ∈ es, value? (ofValue e.2) = some e.2
  | [], _, h => by cases h; exact fun v hv => absurd hv List.not_mem_nil
  | (k, d) :: ms, _, h => by
    rw [entries?] at h
    split at h
    · rename_i v es hv hes
      cases h
      exact List.forall_mem_cons.mpr ⟨value?_again d hv, entries?_again ms hes⟩
    · cases h

end

mutual

/-- What writes a value is readable. -/
theorem isReadable_ofValue : ∀ v : Json, (ofValue v).isReadable = true
  | .null => rfl
  | .bool _ => rfl
  | .number _ => rfl
  | .string _ => rfl
  | .array items => by
    rw [isReadable, ofValue, value?, Option.isSome_map]
    exact isReadable_ofValues items
  | .object members => by
    rw [isReadable, ofValue, value?, Option.isSome_map]
    exact isReadable_ofEntries members

theorem isReadable_ofValues : ∀ vs : List Json, (values? (ofValues vs)).isSome = true
  | [] => rfl
  | v :: vs => by
    obtain ⟨w, hw⟩ := Option.isSome_iff_exists.mp (isReadable_ofValue v)
    obtain ⟨ws, hws⟩ := Option.isSome_iff_exists.mp (isReadable_ofValues vs)
    rw [ofValues, values?, hw, hws]
    rfl

theorem isReadable_ofEntries : ∀ es : List (String × Json), (entries? (ofEntries es)).isSome = true
  | [] => rfl
  | (k, v) :: es => by
    obtain ⟨w, hw⟩ := Option.isSome_iff_exists.mp (isReadable_ofValue v)
    obtain ⟨ws, hws⟩ := Option.isSome_iff_exists.mp (isReadable_ofEntries es)
    rw [ofEntries, entries?, hw, hws]
    rfl

end

theorem eq_null_of_value? {d : Document} (h : d.value? = some .null) : d = .null := by
  cases d with
  | null => rfl
  | array items =>
    obtain ⟨_, -, hnull⟩ := Option.map_eq_some_iff.mp h
    cases hnull
  | object members =>
    obtain ⟨_, -, hnull⟩ := Option.map_eq_some_iff.mp h
    cases hnull
  | _ => cases h

end Document

/-! ## 2. Numbers -/

/-- Whether a number is one that a text can say: an integer of 64 bits, or finite. -/
def Number.isProper : Number → Bool
  | .integer i => Width.least64 ≤ i && i ≤ Width.natural64
  | .real x => x.isFinite

theorem Number.isProper_integer {i : Int} :
    (integer i).isProper = true ↔ Width.least64 ≤ i ∧ i ≤ Width.natural64 := by
  rw [isProper, Bool.and_eq_true, decide_eq_true_iff, decide_eq_true_iff]

namespace Document

mutual

/-- The numbers of a document. -/
def numbers : Document → List Number
  | .number n => [n]
  | .array items => itemsNumbers items
  | .object members => membersNumbers members
  | _ => []

def itemsNumbers : List Document → List Number
  | [] => []
  | d :: ds => numbers d ++ itemsNumbers ds

def membersNumbers : List (String × Document) → List Number
  | [] => []
  | (_, d) :: ms => numbers d ++ membersNumbers ms

end

theorem itemsNumbers_eq (items : List Document) : itemsNumbers items = items.flatMap numbers := by
  induction items with
  | nil => rfl
  | cons d ds ih => rw [itemsNumbers, ih, List.flatMap_cons]

theorem membersNumbers_eq (members : List (String × Document)) :
    membersNumbers members = members.flatMap fun m => m.2.numbers := by
  induction members with
  | nil => rfl
  | cons m ms ih =>
    obtain ⟨k, d⟩ := m
    rw [membersNumbers, ih, List.flatMap_cons]

theorem forall_numbers_array {p : Number → Prop} {items : List Document} :
    (∀ n ∈ (array items).numbers, p n) ↔ ∀ d ∈ items, ∀ n ∈ d.numbers, p n := by
  rw [numbers, itemsNumbers_eq, List.forall_mem_flatMap]

theorem forall_numbers_object {p : Number → Prop} {members : List (String × Document)} :
    (∀ n ∈ (object members).numbers, p n) ↔ ∀ m ∈ members, ∀ n ∈ m.2.numbers, p n := by
  rw [numbers, membersNumbers_eq, List.forall_mem_flatMap]

/-! ## 3. Documents that fit -/

mutual

/-- How many arrays and objects stand inside one another. -/
def depth : Document → Nat
  | .array items => depths items + 1
  | .object members => entriesDepth members + 1
  | _ => 0

def depths : List Document → Nat
  | [] => 0
  | d :: ds => max (depth d) (depths ds)

def entriesDepth : List (String × Document) → Nat
  | [] => 0
  | (_, d) :: ds => max (depth d) (entriesDepth ds)

end

theorem depths_le {items : List Document} {n : Nat} :
    depths items ≤ n ↔ ∀ d ∈ items, d.depth ≤ n := by
  induction items with
  | nil => exact ⟨fun _ d hd => absurd hd List.not_mem_nil, fun _ => Nat.zero_le n⟩
  | cons d ds ih => rw [depths, max_le_iff, ih, List.forall_mem_cons]

theorem entriesDepth_le {members : List (String × Document)} {n : Nat} :
    entriesDepth members ≤ n ↔ ∀ m ∈ members, m.2.depth ≤ n := by
  induction members with
  | nil => exact ⟨fun _ d hd => absurd hd List.not_mem_nil, fun _ => Nat.zero_le n⟩
  | cons m ms ih =>
    obtain ⟨k, d⟩ := m
    rw [entriesDepth, max_le_iff, ih, List.forall_mem_cons]

theorem depth_array_le {items : List Document} {n : Nat} :
    (array items).depth ≤ n + 1 ↔ ∀ d ∈ items, d.depth ≤ n :=
  Nat.succ_le_succ_iff.trans depths_le

theorem depth_object_le {members : List (String × Document)} {n : Nat} :
    (object members).depth ≤ n + 1 ↔ ∀ m ∈ members, m.2.depth ≤ n :=
  Nat.succ_le_succ_iff.trans entriesDepth_le

/-- A document nests at most `n` deep, and all its numbers are ones that a text can say. -/
structure Fits (n : Nat) (d : Document) : Prop where
  depth_le : d.depth ≤ n
  proper : ∀ x ∈ d.numbers, x.isProper = true

theorem fits_null (n : Nat) : Fits n .null := ⟨Nat.zero_le n, List.forall_mem_nil _⟩

theorem fits_unreadable (n : Nat) : Fits n .unreadable := ⟨Nat.zero_le n, List.forall_mem_nil _⟩

theorem fits_bool (n : Nat) (b : Bool) : Fits n (.bool b) := ⟨Nat.zero_le n, List.forall_mem_nil _⟩

theorem fits_string (n : Nat) (s : String) : Fits n (.string s) :=
  ⟨Nat.zero_le n, List.forall_mem_nil _⟩

theorem fits_number {x : Number} (n : Nat) (h : x.isProper = true) : Fits n (.number x) :=
  ⟨Nat.zero_le n, List.forall_mem_singleton.mpr h⟩

theorem fits_array {items : List Document} {n : Nat} :
    (array items).Fits n ↔ ∃ m, n = m + 1 ∧ ∀ d ∈ items, d.Fits m := by
  constructor
  · rintro ⟨hdepth, hproper⟩
    obtain ⟨m, rfl⟩ := Nat.exists_eq_add_one_of_ne_zero (Nat.ne_zero_of_lt hdepth)
    exact ⟨m, rfl, fun d hd => ⟨depth_array_le.mp hdepth d hd,
      forall_numbers_array.mp hproper d hd⟩⟩
  · rintro ⟨m, rfl, h⟩
    exact ⟨depth_array_le.mpr fun d hd => (h d hd).depth_le,
      forall_numbers_array.mpr fun d hd => (h d hd).proper⟩

theorem fits_object {members : List (String × Document)} {n : Nat} :
    (object members).Fits n ↔ ∃ m, n = m + 1 ∧ ∀ e ∈ members, e.2.Fits m := by
  constructor
  · rintro ⟨hdepth, hproper⟩
    obtain ⟨m, rfl⟩ := Nat.exists_eq_add_one_of_ne_zero (Nat.ne_zero_of_lt hdepth)
    exact ⟨m, rfl, fun e he => ⟨depth_object_le.mp hdepth e he,
      forall_numbers_object.mp hproper e he⟩⟩
  · rintro ⟨m, rfl, h⟩
    exact ⟨depth_object_le.mpr fun e he => (h e he).depth_le,
      forall_numbers_object.mpr fun e he => (h e he).proper⟩

theorem fits_ofMembers {es : List (String × Json)} {n : Nat} (h : ∀ e ∈ es, (ofValue e.2).Fits n) :
    (ofValue (.ofMembers es)).Fits (n + 1) := by
  refine fits_object.mpr ⟨n, rfl, fun e he => ?_⟩
  rw [ofEntries_eq_map] at he
  obtain ⟨e', he', rfl⟩ := List.mem_map.mp he
  exact h e' (Keyed.mem_of_mem_ofList he')

mutual

/-- The value of a document is not written any deeper. -/
theorem Fits.of_value? : ∀ {n : Nat} (d : Document) {v : Json}, d.Fits n → value? d = some v →
    (ofValue v).Fits n
  | n, .null, _, _, h => by cases h; exact fits_null n
  | n, .bool b, _, _, h => by cases h; exact fits_bool n b
  | _, .number _, _, hd, h => by cases h; exact hd
  | n, .string s, _, _, h => by cases h; exact fits_string n s
  | _, .unreadable, _, _, h => by cases h
  | _, .array items, _, hd, h => by
    obtain ⟨vs, hvs, rfl⟩ := Option.map_eq_some_iff.mp h
    obtain ⟨m, rfl, hitems⟩ := fits_array.mp hd
    refine fits_array.mpr ⟨m, rfl, fun d hd => ?_⟩
    rw [ofValues_eq_map] at hd
    obtain ⟨v, hv, rfl⟩ := List.mem_map.mp hd
    exact Fits.of_values? items hitems hvs v hv
  | _, .object members, _, hd, h => by
    obtain ⟨es, hes, rfl⟩ := Option.map_eq_some_iff.mp h
    obtain ⟨m, rfl, hmembers⟩ := fits_object.mp hd
    exact fits_ofMembers (Fits.of_entries? members hmembers hes)

theorem Fits.of_values? : ∀ {n : Nat} (ds : List Document) {vs : List Json},
    (∀ d ∈ ds, d.Fits n) → values? ds = some vs → ∀ v ∈ vs, (ofValue v).Fits n
  | _, [], _, _, h => by cases h; exact fun v hv => absurd hv List.not_mem_nil
  | _, d :: ds, _, hds, h => by
    rw [values?] at h
    split at h
    · rename_i v vs hv hvs
      cases h
      obtain ⟨hd, hds⟩ := List.forall_mem_cons.mp hds
      exact List.forall_mem_cons.mpr ⟨Fits.of_value? d hd hv, Fits.of_values? ds hds hvs⟩
    · cases h

theorem Fits.of_entries? : ∀ {n : Nat} (ms : List (String × Document)) {es : List (String × Json)},
    (∀ m ∈ ms, m.2.Fits n) → entries? ms = some es → ∀ e ∈ es, (ofValue e.2).Fits n
  | _, [], _, _, h => by cases h; exact fun v hv => absurd hv List.not_mem_nil
  | _, (k, d) :: ms, _, hms, h => by
    rw [entries?] at h
    split at h
    · rename_i v es hv hes
      cases h
      obtain ⟨hd, hms⟩ := List.forall_mem_cons.mp hms
      exact List.forall_mem_cons.mpr ⟨Fits.of_value? d hd hv, Fits.of_entries? ms hms hes⟩
    · cases h

end

end Document

end Workgraph.Json
