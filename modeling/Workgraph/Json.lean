import Workgraph.Json.Number
import Workgraph.Keyed

/-!
# JSON values

The one type of free values in the library: payloads, variables, tool arguments and results.

* an object is a map from texts (`Keyed`): its keys ascend and no key occurs twice;
* equality is decidable and distinguishes `1` from `1.0` and `0.0` from `-0.0`, as the written text
  does;
* `member?` and `item?` look into a value; `asString?` and its like give what a value is.
-/

namespace Workgraph

inductive Json where
  | null
  | bool (value : Bool)
  | number (value : Json.Number)
  | string (value : String)
  | array (items : List Json)
  | object (members : List (String × Json))
  deriving Inhabited

namespace Json

/-! ## 1. Equality -/

mutual

/-- Whether two values are the same. -/
def same : Json → Json → Bool
  | .null, .null => true
  | .bool a, .bool b => a == b
  | .number a, .number b => decide (a = b)
  | .string a, .string b => a == b
  | .array a, .array b => sameItems a b
  | .object a, .object b => sameMembers a b
  | _, _ => false

def sameItems : List Json → List Json → Bool
  | [], [] => true
  | a :: as, b :: bs => same a b && sameItems as bs
  | _, _ => false

def sameMembers : List (String × Json) → List (String × Json) → Bool
  | [], [] => true
  | (j, a) :: as, (k, b) :: bs => j == k && same a b && sameMembers as bs
  | _, _ => false

end

mutual

theorem eq_of_same : ∀ a b : Json, same a b = true → a = b
  | .null, b, h => by cases b <;> simp_all [same]
  | .bool _, b, h => by cases b <;> simp_all [same]
  | .number _, b, h => by cases b <;> simp_all [same]
  | .string _, b, h => by cases b <;> simp_all [same]
  | .array as, b, h => by
    cases b with
    | array bs => rw [eq_of_sameItems as bs (by simpa [same] using h)]
    | _ => simp [same] at h
  | .object as, b, h => by
    cases b with
    | object bs => rw [eq_of_sameMembers as bs (by simpa [same] using h)]
    | _ => simp [same] at h

theorem eq_of_sameItems : ∀ as bs : List Json, sameItems as bs = true → as = bs
  | [], bs, h => by cases bs <;> simp_all [sameItems]
  | a :: as, bs, h => by
    cases bs with
    | nil => simp [sameItems] at h
    | cons b bs =>
      simp only [sameItems, Bool.and_eq_true] at h
      rw [eq_of_same a b h.1, eq_of_sameItems as bs h.2]

theorem eq_of_sameMembers : ∀ as bs : List (String × Json), sameMembers as bs = true → as = bs
  | [], bs, h => by cases bs <;> simp_all [sameMembers]
  | (j, a) :: as, bs, h => by
    cases bs with
    | nil => simp [sameMembers] at h
    | cons e bs =>
      obtain ⟨k, b⟩ := e
      simp only [sameMembers, Bool.and_eq_true, beq_iff_eq] at h
      rw [h.1.1, eq_of_same a b h.1.2, eq_of_sameMembers as bs h.2]

end

mutual

theorem same_refl : ∀ a : Json, same a a = true
  | .null => rfl
  | .bool _ => by simp [same]
  | .number _ => by simp [same]
  | .string _ => by simp [same]
  | .array as => by simp [same, sameItems_refl as]
  | .object as => by simp [same, sameMembers_refl as]

theorem sameItems_refl : ∀ as : List Json, sameItems as as = true
  | [] => rfl
  | a :: as => by simp [sameItems, same_refl a, sameItems_refl as]

theorem sameMembers_refl : ∀ as : List (String × Json), sameMembers as as = true
  | [] => rfl
  | (_, a) :: as => by simp [sameMembers, same_refl a, sameMembers_refl as]

end

theorem same_iff (a b : Json) : same a b = true ↔ a = b :=
  ⟨eq_of_same a b, fun h => h ▸ same_refl a⟩

instance : DecidableEq Json := fun a b => decidable_of_iff _ (same_iff a b)

/-! ## 2. Building values -/

/-- The object with some members in any order; of two with one key the later counts. -/
def ofMembers (members : List (String × Json)) : Json := .object (Keyed.ofList members)

def ofInt (i : Int) : Json := .number (.integer i)

def ofNat (n : Nat) : Json := .number (.integer n)

/-- A floating-point number; one that is not finite has no JSON number and becomes null. -/
def ofReal (x : Binary64) : Json := if x.isFinite then .number (.real x) else .null

/-- A value that may be absent; absent is null. -/
def ofOption (encode : α → Json) : Option α → Json
  | none => .null
  | some a => encode a

def ofList (encode : α → Json) (as : List α) : Json := .array (as.map encode)

def ofStrings (ss : List String) : Json := ofList .string ss

/-- A member that is left out when it is absent. -/
def present (key : String) (encode : α → Json) : Option α → List (String × Json)
  | none => []
  | some a => [(key, encode a)]

/-! ## 3. Looking into values -/

/-- The member of an object under a key; nothing for any other value. -/
def member? : Json → String → Option Json
  | .object members, key => Keyed.get? members key
  | _, _ => none

/-- The item of an array at a position; nothing for any other value. -/
def item? : Json → Nat → Option Json
  | .array items, i => items[i]?
  | _, _ => none

def asString? : Json → Option String
  | .string s => some s
  | _ => none

def isObject : Json → Bool
  | .object _ => true
  | _ => false

/-- A value with null read as nothing. -/
def nonNull? : Json → Option Json
  | .null => none
  | v => some v

end Json

end Workgraph
