import Mathlib.Algebra.Order.Field.Power
import Mathlib.Data.Rat.Cast.Order
import Mathlib.Tactic.Positivity
import Workgraph.Graph.Definition
import Workgraph.Graph.Selection
import Workgraph.Proofs.Numerals

/-!
# Which case a switch chooses

A selector may give a number, a numeral, the id of a case or a label. This file compares the ways to
say the same.

* `portFor_mem_ports` holds of all of them: what is chosen is an output of the switch.
* `RoutesAlike` is about an integer in all its spellings. As an integer, as a floating-point number
  with this value (`Binary64.value`), and as a numeral it means the nearest case; but a numeral is
  read into 64 bits with a sign, and one beyond them means nothing (`farNumeral_refused`).
* `ReadsLiteral` is about texts that begin like the id of a case. An output's own id means this
  output, and no text means one that does not exist. The number in the id is read like any other,
  though, so a sign and zeros in front of it make no difference (`paddedLiteral_read`).
-/

namespace Workgraph

open Text (Numeral)

/-! ## 1. Whole floating-point numbers -/

namespace Binary64

/-- The rational number that a finite number is. -/
def value (x : Binary64) : ℚ :=
  let (m, q) := x.magnitude
  if x.isNegative then -(m * 2 ^ q) else m * 2 ^ q

/-- A significand that is scaled to a natural number: upwards, or downwards without a rest. -/
theorem scaled_eq {m n : Nat} {q : Int} (h : (m : ℚ) * 2 ^ q = n) :
    (if 0 ≤ q then true else m % Nat.pow 2 q.natAbs == 0) = true ∧
      (if 0 ≤ q then m * Nat.pow 2 q.toNat else m / Nat.pow 2 q.natAbs) = n := by
  by_cases hq : 0 ≤ q
  · obtain ⟨p, rfl⟩ := Int.eq_ofNat_of_zero_le hq
    rw [if_pos hq, if_pos hq]
    refine ⟨rfl, ?_⟩
    rw [zpow_natCast] at h
    exact_mod_cast h
  · obtain ⟨p, rfl⟩ : ∃ p : Nat, q = -(p : Int) := ⟨q.natAbs, by omega⟩
    have hpow : Nat.pow 2 (-(p : Int)).natAbs = 2 ^ p := by
      rw [Int.natAbs_neg, Int.natAbs_natCast]
      rfl
    have hm : m = n * 2 ^ p := by
      rw [zpow_neg, zpow_natCast, ← div_eq_mul_inv, div_eq_iff (by positivity)] at h
      exact_mod_cast h
    rw [if_neg hq, if_neg hq, hpow, hm]
    exact ⟨beq_iff_eq.mpr (Nat.mul_mod_left n _), Nat.mul_div_cancel n (Nat.two_pow_pos p)⟩

/-- **A finite number whose value is an integer** is whole, and is truncated to this integer. -/
theorem whole_of_value {x : Binary64} {k : Int} (hfinite : x.isFinite = true) (h : x.value = k) :
    x.isWhole = true ∧ x.truncate = k := by
  have hnonneg : (0 : ℚ) ≤ x.magnitude.1 * 2 ^ x.magnitude.2 := by positivity
  unfold value at h
  unfold isWhole truncate
  rw [hfinite, Bool.true_and]
  dsimp only at h ⊢
  cases hneg : x.isNegative with
  | false =>
    rw [hneg, if_neg Bool.false_ne_true] at h
    have hk : 0 ≤ k := by
      rw [h] at hnonneg
      exact_mod_cast hnonneg
    obtain ⟨n, rfl⟩ := Int.eq_ofNat_of_zero_le hk
    obtain ⟨hwhole, hvalue⟩ := scaled_eq (n := n) (by exact_mod_cast h)
    rw [if_neg Bool.false_ne_true, hvalue]
    exact ⟨hwhole, rfl⟩
  | true =>
    rw [hneg, if_pos rfl, neg_eq_iff_eq_neg] at h
    have hk : 0 ≤ -k := by
      rw [h] at hnonneg
      exact_mod_cast hnonneg
    obtain ⟨n, hn⟩ := Int.eq_ofNat_of_zero_le hk
    obtain ⟨hwhole, hvalue⟩ := scaled_eq (n := n) (by rw [h]; exact_mod_cast hn)
    rw [if_pos rfl, hvalue]
    exact ⟨hwhole, by omega⟩

end Binary64

/-! ## 2. Beginnings -/

namespace Text

theorem after?_eq_some_iff {start s rest : String} :
    after? start s = some rest ↔ s = start ++ rest := by
  unfold after?
  dsimp only
  rw [Option.ite_none_right_eq_some, Option.some_inj]
  constructor
  · rintro ⟨htake, rfl⟩
    rw [← String.toList_inj, String.toList_append, String.toList_ofList]
    exact (List.take_append_drop _ _).symm.trans (congrArg (· ++ _) htake)
  · rintro rfl
    rw [String.toList_append, List.take_left, List.drop_left, String.ofList_toList]
    exact ⟨rfl, rfl⟩

/-- No numeral begins like the id of a case. -/
theorem after?_caseStem_of_numeral {s : String} {k : Int} (h : Numeral s.toList k) :
    after? PortId.caseStem (lowerAscii s) = none := by
  obtain ⟨c, ds, hs, hc⟩ := h.head
  have hlower : c.toLower ≠ 'c' := by
    rcases hc with rfl | rfl | hdigit
    · decide
    · decide
    · obtain ⟨d, hd, rfl, -⟩ := exists_digitChar hdigit
      exact (by decide : ∀ d < 10, d.digitChar.toLower ≠ 'c') d hd
  cases hrest : after? PortId.caseStem (lowerAscii s) with
  | none => rfl
  | some rest =>
    have hbegins := congrArg String.toList (after?_eq_some_iff.mp hrest)
    rw [lowerAscii, String.toList_map, hs, String.toList_append] at hbegins
    exact absurd (List.cons.inj hbegins).1 hlower

end Text

/-! ## 3. Cases -/

namespace SwitchBody

variable {b : SwitchBody} {s : String} {k : Int}

theorem le_caseCount (b : SwitchBody) : 2 ≤ b.caseCount := Nat.le_max_left ..

theorem caseCount_le (b : SwitchBody) : b.caseCount ≤ 8 :=
  Nat.max_le.mpr ⟨by decide, Nat.min_le_right ..⟩

theorem mem_ports_iff {port : String} :
    port ∈ b.ports.map (·.id) ↔ ∃ i < b.caseCount, port = PortId.case i := by
  have hids : b.ports.map (·.id) = (List.range b.caseCount).map PortId.case := by
    unfold ports
    rw [List.map_map]
    rfl
  rw [hids, List.mem_map]
  constructor
  · rintro ⟨i, hi, rfl⟩
    exact ⟨i, List.mem_range.mp hi, rfl⟩
  · rintro ⟨i, hi, rfl⟩
    exact ⟨i, List.mem_range.mpr hi, rfl⟩

/-- The nearest case is a case. -/
theorem nearestCase_eq (b : SwitchBody) (k : Int) : ∃ m < b.caseCount,
    (m : Int) = max 0 (min k (b.caseCount - 1)) ∧ b.nearestCase k = PortId.case m := by
  have := b.le_caseCount
  refine ⟨(max 0 (min k (b.caseCount - 1))).toNat, ?_, Int.toNat_of_nonneg (by omega), rfl⟩
  omega

/-- The position of a label is the number of a case. -/
theorem lt_of_labelled? {text : String} {i : Nat} (h : b.labelled? text = some i) :
    i < b.caseCount := by
  obtain ⟨hlt, -⟩ := List.findIdx?_eq_some_iff_getElem.mp h
  exact hlt.trans_le (List.length_take_le _ _)

/-- **What is chosen is an output of the switch**, whatever the selector gives. -/
theorem portFor_mem_ports {v : Json} {port : String} (h : b.portFor v = .ok port) :
    port ∈ b.ports.map (·.id) := by
  rw [mem_ports_iff]
  have hnearest (k : Int) : ∃ i < b.caseCount, b.nearestCase k = PortId.case i := by
    obtain ⟨m, hm, -, heq⟩ := b.nearestCase_eq k
    exact ⟨m, hm, heq⟩
  unfold portFor at h
  split at h
  · cases h
    exact hnearest _
  · split at h
    · cases h
      exact hnearest _
    · cases h
  · unfold portForText at h
    dsimp only at h
    split at h
    · next i hi =>
      cases h
      exact ⟨i, lt_of_labelled? hi, rfl⟩
    · split at h
      · split at h
        · next i hi =>
          cases h
          exact ⟨i, of_decide_eq_true (Option.filter_eq_some_iff.mp hi).2, rfl⟩
        · cases h
      · split at h
        · cases h
          exact hnearest _
        · cases h
  · cases h

/-! ## 4. An integer in all its spellings -/

/-- A numeral that is no label means the nearest case, provided that it fits into 64 bits. -/
theorem portForText_of_numeral (h : Numeral (Text.trim s).toList k)
    (hlabel : b.labelled? (Text.trim s) = none) : b.portForText s =
      if Width.least64 ≤ k ∧ k ≤ Width.greatest64 then .ok (b.nearestCase k)
      else .error ("'" ++ Text.trim s ++ "' matches no case label") := by
  unfold portForText
  simp only [hlabel, Text.after?_caseStem_of_numeral h, Text.integer?_of_numeral h]
  by_cases hfits : Width.least64 ≤ k ∧ k ≤ Width.greatest64
  · simp only [if_pos hfits]
  · simp only [if_neg hfits]

/-- **One integer, said in several ways** to a switch. -/
structure RoutesAlike (b : SwitchBody) (k : Int) : Prop where
  /-- There is one case that the integer means: the one with this number, or the first or the last
  one. -/
  nearest : ∃ m < b.caseCount, (m : Int) = max 0 (min k (b.caseCount - 1)) ∧
    b.nearestCase k = PortId.case m
  /-- It is chosen by the integer itself, -/
  integer : b.portFor (.number (.integer k)) = .ok (b.nearestCase k)
  /-- by a floating-point number with this value, -/
  real : ∀ x : Binary64, x.isFinite = true → x.value = k →
    b.portFor (.number (.real x)) = .ok (b.nearestCase k)
  /-- and by a numeral that is no label, when the integer fits into 64 bits, -/
  numeral : ∀ s, Numeral (Text.trim s).toList k → b.labelled? (Text.trim s) = none →
    Width.least64 ≤ k → k ≤ Width.greatest64 → b.portFor (.string s) = .ok (b.nearestCase k)
  /-- for instance by its own text. -/
  text : Numeral (toString k).toList k
  /-- When it does not fit, its numerals choose nothing. -/
  beyond : ∀ s, Numeral (Text.trim s).toList k → b.labelled? (Text.trim s) = none →
    k < Width.least64 ∨ Width.greatest64 < k →
    b.portFor (.string s) = .error ("'" ++ Text.trim s ++ "' matches no case label")

theorem routesAlike (b : SwitchBody) (k : Int) : RoutesAlike b k where
  nearest := b.nearestCase_eq k
  integer := rfl
  real x hfinite hvalue := by
    obtain ⟨hwhole, htruncate⟩ := Binary64.whole_of_value hfinite hvalue
    unfold portFor
    dsimp only
    rw [if_pos hwhole, htruncate]
  numeral s h hlabel hleast hgreatest :=
    (portForText_of_numeral h hlabel).trans (if_pos ⟨hleast, hgreatest⟩)
  text := Text.numeral_toString k
  beyond s h hlabel hfar :=
    (portForText_of_numeral h hlabel).trans (if_neg (by omega))

/-- The integer after the greatest one of 64 bits means the last case, and its numeral nothing. -/
theorem farNumeral_refused :
    let b : SwitchBody := { cases := 3 }
    let k : Int := Width.greatest64 + 1
    let s := "9223372036854775808"
    Text.trim s = toString k ∧ b.labelled? s = none ∧
      b.portFor (.number (.integer k)) = .ok "case-2" ∧
      b.portFor (.string s) = .error "'9223372036854775808' matches no case label" := by
  decide +kernel

/-! ## 5. Texts that begin like the id of a case -/

/-- A text that begins like the id of a case and is no label. -/
structure IsLiteral (b : SwitchBody) (s : String) : Prop where
  begins : ∃ rest, Text.lowerAscii (Text.trim s) = PortId.caseStem ++ rest
  unlabelled : b.labelled? (Text.trim s) = none

/-- The id of a case with zeros in front of its number, and perhaps a plus sign in front of them. -/
def padded (plus : Bool) (zeros i : Nat) : String :=
  PortId.caseStem ++ ((if plus then "+" else "") ++ (String.ofList (List.replicate zeros '0') ++
    toString i))

theorem padded_zero (i : Nat) : padded false 0 i = PortId.case i := by
  unfold padded PortId.case
  congr 1

/-- What stands behind the beginning of a padded id. -/
theorem eq_padded_iff {rest : String} {plus : Bool} {zeros i : Nat} :
    PortId.caseStem ++ rest = padded plus zeros i ↔
      rest.toList = (if plus then ['+'] else []) ++
        (List.replicate zeros '0' ++ Nat.toDigits 10 i) := by
  have hdigits : (toString i).toList = Nat.toDigits 10 i := Nat.toList_repr
  unfold padded
  rw [String.append_right_inj, ← String.toList_inj, String.toList_append, String.toList_append,
    String.toList_ofList, hdigits]
  cases plus <;> rfl

/-- **The texts that are read as the number of a case** are the ends of its padded ids. -/
theorem natural?_iff_padded {rest : String} {i : Nat} (h : i < b.caseCount) :
    Text.natural? Width.natural64 rest = some i ↔
      ∃ plus zeros, PortId.caseStem ++ rest = padded plus zeros i := by
  have hfits : i ≤ Width.natural64 := (h.le.trans b.caseCount_le).trans (by decide)
  rw [Text.natural?_eq_some_iff, and_iff_right hfits]
  constructor
  · rintro (⟨zeros, hrest⟩ | ⟨cs, hrest, zeros, rfl⟩)
    · exact ⟨false, zeros, eq_padded_iff.mpr hrest⟩
    · exact ⟨true, zeros, eq_padded_iff.mpr hrest⟩
  · rintro ⟨plus, zeros, heq⟩
    have hrest := eq_padded_iff.mp heq
    cases plus with
    | false => exact Or.inl ⟨zeros, hrest⟩
    | true => exact Or.inr ⟨_, hrest, zeros, rfl⟩

/-- The number of a case stands behind the beginning of its padded ids, and of no other text. -/
theorem number?_eq_some_iff {rest : String} {i : Nat} :
    (Text.natural? Width.natural64 rest).filter (· < b.caseCount) = some i ↔
      i < b.caseCount ∧ ∃ plus zeros, PortId.caseStem ++ rest = padded plus zeros i := by
  rw [Option.filter_eq_some_iff, decide_eq_true_eq, and_comm]
  exact and_congr_right fun h => natural?_iff_padded h

/-- What a text that begins like the id of a case chooses. -/
theorem portForText_of_begins {rest : String} (hlabel : b.labelled? (Text.trim s) = none)
    (hrest : Text.lowerAscii (Text.trim s) = PortId.caseStem ++ rest) : b.portForText s =
      match (Text.natural? Width.natural64 rest).filter (· < b.caseCount) with
      | some i => .ok (PortId.case i)
      | none => .error ("'" ++ Text.trim s ++ "' does not name one of " ++ toString b.caseCount
          ++ " cases") := by
  have hafter := Text.after?_eq_some_iff.mpr hrest
  cases hread : (Text.natural? Width.natural64 rest).filter (· < b.caseCount) with
  | some i => simp only [portForText, hlabel, hafter, hread]
  | none => simp only [portForText, hlabel, hafter, hread]

/-- **How a text that begins like the id of a case is read.** -/
structure ReadsLiteral (b : SwitchBody) (s : String) : Prop where
  /-- The id of an output means this output. -/
  own : ∀ p ∈ b.ports, Text.lowerAscii (Text.trim s) = p.id → b.portFor (.string s) = .ok p.id
  /-- No other output is ever meant than one that there is. -/
  existing : ∀ port, b.portFor (.string s) = .ok port → port ∈ b.ports.map (·.id)
  /-- An output is meant by its id and by its padded ids, and by nothing else. -/
  meant : ∀ port, b.portFor (.string s) = .ok port ↔ ∃ i < b.caseCount, port = PortId.case i ∧
    ∃ plus zeros, Text.lowerAscii (Text.trim s) = padded plus zeros i
  /-- All other texts are refused. -/
  refused : (∀ i < b.caseCount, ∀ plus zeros,
      Text.lowerAscii (Text.trim s) ≠ padded plus zeros i) →
    b.portFor (.string s) = .error
      ("'" ++ Text.trim s ++ "' does not name one of " ++ toString b.caseCount ++ " cases")

theorem IsLiteral.readsLiteral (h : b.IsLiteral s) : ReadsLiteral b s := by
  obtain ⟨rest, hrest⟩ := h.begins
  have htext : b.portFor (.string s) = _ := portForText_of_begins h.unlabelled hrest
  have hpadded (port : String) : b.portFor (.string s) = .ok port ↔
      ∃ i < b.caseCount, port = PortId.case i ∧
        ∃ plus zeros, Text.lowerAscii (Text.trim s) = padded plus zeros i := by
    rw [htext, hrest]
    constructor
    · intro hport
      split at hport
      · next i hi =>
        obtain ⟨hlt, hspelled⟩ := number?_eq_some_iff.mp hi
        exact ⟨i, hlt, (Except.ok.inj hport).symm, hspelled⟩
      · cases hport
    · rintro ⟨i, hlt, rfl, hspelled⟩
      rw [number?_eq_some_iff.mpr ⟨hlt, hspelled⟩]
  constructor
  · intro p hp hid
    obtain ⟨i, hlt, hcase⟩ := mem_ports_iff.mp (List.mem_map_of_mem hp)
    exact (hpadded p.id).mpr ⟨i, hlt, hcase, false, 0, by rw [hid, hcase, padded_zero]⟩
  · exact fun port => portFor_mem_ports
  · exact hpadded
  · intro hnone
    rw [htext]
    split
    · next i hi =>
      obtain ⟨hlt, plus, zeros, heq⟩ := number?_eq_some_iff.mp hi
      exact absurd (hrest.trans heq) (hnone i hlt plus zeros)
    · rfl

/-- An output's own id among three cases, in capitals and between blanks. -/
theorem shouted_readsLiteral :
    ({ cases := 3 } : SwitchBody).IsLiteral " CASE-1 " ∧
      ReadsLiteral { cases := 3 } " CASE-1 " :=
  have h : ({ cases := 3 } : SwitchBody).IsLiteral " CASE-1 " := ⟨⟨"1", by decide +kernel⟩, by
    decide +kernel⟩
  ⟨h, h.readsLiteral⟩

/-- With a zero in front of its number the id of an output is none, and still means the output. -/
theorem paddedLiteral_read :
    let b : SwitchBody := { cases := 3 }
    Text.lowerAscii (Text.trim "case-01") = "case-01" ∧ b.labelled? "case-01" = none ∧
      "case-01" ∉ b.ports.map (·.id) ∧ b.portFor (.string "case-01") = .ok "case-1" := by
  decide +kernel

end SwitchBody

end Workgraph
