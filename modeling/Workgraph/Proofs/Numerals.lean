import Mathlib.Data.List.Basic
import Workgraph.Text.Integer

/-!
# Which texts are read as integers

Integers are read with an optional sign and with any number of zeros in front. This file says which
texts are read as a given number, and that the text of an integer is one of them.

* `Digits` are the decimal digits of a natural number, after some zeros; `digits1?_eq_some_iff` says
  that a list of characters is read as a number exactly when it holds its digits. For this,
  `toDigits_append` writes further digits behind those of a number, from left to right as they are
  read.
* `Numeral` adds the sign. `natural?_eq_some_iff` and `integer?_eq_some_iff` say that a text is read
  exactly when it is a numeral of a number within the bounds, and `numeral_toString` that an
  integer's own text is a numeral of it.
-/

namespace Workgraph.Text

open Nat (toDigits ofDigitChars)

/-! ## 1. Digits -/

/-- The decimal digits of a number, after any number of zeros. -/
def Digits (cs : List Char) (n : Nat) : Prop :=
  ∃ zeros, cs = List.replicate zeros '0' ++ toDigits 10 n

/-- A character that is a digit is the digit of a number below ten. -/
theorem exists_digitChar {c : Char} (h : c.isDigit = true) :
    ∃ d < 10, c = d.digitChar ∧ c.toNat - '0'.toNat = d := by
  obtain ⟨hlow, hhigh⟩ : 48 ≤ c.toNat ∧ c.toNat ≤ 57 := Char.isDigit_iff_toNat.mp h
  have hlt : c.toNat - 48 < 10 := by omega
  refine ⟨c.toNat - 48, hlt, Char.toNat_inj.mp ?_, rfl⟩
  rw [Nat.toNat_digitChar_of_lt_ten hlt]
  omega

/-- Reading digits goes on from the number that was read so far. -/
theorem foldl_digits (cs : List Char) (n : Nat) :
    cs.foldl (fun acc c => acc.bind fun n =>
        if c.isDigit then some (10 * n + (c.toNat - '0'.toNat)) else none) (some n) =
      if cs.all Char.isDigit then some (ofDigitChars 10 cs n) else none := by
  have hnone : ∀ cs : List Char, cs.foldl (fun acc c => acc.bind fun n : Nat =>
      if c.isDigit then some (10 * n + (c.toNat - '0'.toNat)) else none) none = none := by
    intro cs
    induction cs with
    | nil => rfl
    | cons c cs ih => exact ih
  induction cs generalizing n with
  | nil => rfl
  | cons c cs ih =>
    rw [List.foldl_cons, Option.bind_some, List.all_cons]
    cases c.isDigit with
    | false => exact hnone cs
    | true => rw [if_pos rfl, ih, Nat.ofDigitChars_cons, Bool.true_and]

/-- Digits written behind a positive number are digits of the number that is read in all. -/
theorem toDigits_append {cs : List Char} (h : cs.all Char.isDigit = true) {n : Nat} (hn : 0 < n) :
    toDigits 10 n ++ cs = toDigits 10 (ofDigitChars 10 cs n) := by
  induction cs generalizing n with
  | nil => rw [List.append_nil, Nat.ofDigitChars_nil]
  | cons c cs ih =>
    rw [List.all_cons, Bool.and_eq_true] at h
    obtain ⟨d, hd, hc, hvalue⟩ := exists_digitChar h.1
    have hone : [c] = toDigits 10 d := by rw [Nat.toDigits_of_lt_base hd, hc]
    rw [Nat.ofDigitChars_cons, hvalue, ← ih h.2 (by omega),
      ← Nat.toDigits_append_toDigits (by decide) hn hd, ← hone, List.append_assoc,
      List.singleton_append]

/-- Any digits are those of the number that they are read as. -/
theorem digits_ofDigitChars {cs : List Char} (h : cs.all Char.isDigit = true) (hne : cs ≠ []) :
    Digits cs (ofDigitChars 10 cs 0) := by
  induction cs with
  | nil => exact absurd rfl hne
  | cons c cs ih =>
    rw [List.all_cons, Bool.and_eq_true] at h
    obtain ⟨d, hd, hc, hvalue⟩ := exists_digitChar h.1
    rw [Nat.ofDigitChars_cons, hvalue, Nat.mul_zero, Nat.zero_add]
    have hone : [c] = toDigits 10 d := by rw [Nat.toDigits_of_lt_base hd, hc]
    rcases Nat.eq_zero_or_pos d with rfl | hpos
    · -- a zero in front, unless it is the only digit
      by_cases hcs : cs = []
      · subst hcs
        exact ⟨0, hone⟩
      · obtain ⟨zeros, hzeros⟩ := ih h.2 hcs
        refine ⟨zeros + 1, ?_⟩
        rw [List.replicate_succ, List.cons_append, ← hzeros, hc]
        rfl
    · refine ⟨0, ?_⟩
      rw [← toDigits_append h.2 hpos, ← hone]
      rfl

namespace Digits

variable {cs : List Char} {n : Nat}

theorem all (h : Digits cs n) : cs.all Char.isDigit = true := by
  obtain ⟨zeros, rfl⟩ := h
  rw [List.all_append, Bool.and_eq_true, List.all_eq_true, List.all_eq_true]
  refine ⟨fun c hc => ?_, fun c hc => Nat.isDigit_of_mem_toDigits (by decide) (by decide) hc⟩
  rw [List.eq_of_mem_replicate hc]
  rfl

theorem ne_nil (h : Digits cs n) : cs ≠ [] := by
  obtain ⟨zeros, rfl⟩ := h
  exact List.append_ne_nil_of_right_ne_nil _ Nat.toDigits_ne_nil

/-- Zeros in front do not count. -/
theorem value (h : Digits cs n) : ofDigitChars 10 cs 0 = n := by
  obtain ⟨zeros, rfl⟩ := h
  rw [Nat.ofDigitChars_append, Nat.ofDigitChars_replicate_zero, Nat.mul_zero,
    Nat.ofDigitChars_ten_toDigits]

theorem head {c : Char} (h : Digits (c :: cs) n) : c.isDigit = true := by
  have hall := h.all
  rw [List.all_cons, Bool.and_eq_true] at hall
  exact hall.1

/-- No sign is read as a digit. -/
theorem ne_sign {c : Char} (h : Digits (c :: cs) n) : c ≠ '+' ∧ c ≠ '-' := by
  constructor <;>
  · rintro rfl
    exact absurd h.head (by decide)

end Digits

/-- **Characters are read as a number when they are its digits**, and only then. -/
theorem digits1?_eq_some_iff {cs : List Char} {n : Nat} : digits1? cs = some n ↔ Digits cs n := by
  have hread : cs ≠ [] → digits1? cs =
      if cs.all Char.isDigit then some (ofDigitChars 10 cs 0) else none := by
    intro hne
    obtain ⟨c, ds, rfl⟩ := List.exists_cons_of_ne_nil hne
    exact foldl_digits _ 0
  constructor
  · intro h
    have hne : cs ≠ [] := by
      rintro rfl
      cases h
    rw [hread hne] at h
    split at h
    · next hall =>
      cases h
      exact digits_ofDigitChars hall hne
    · cases h
  · intro h
    rw [hread h.ne_nil, if_pos h.all, h.value]

/-! ## 2. Signs -/

/-- **The numerals of an integer**: a sign, which may be missing unless it is a minus sign, zeros,
and the digits. -/
inductive Numeral : List Char → Int → Prop
  | plain {cs : List Char} {n : Nat} : Digits cs n → Numeral cs n
  | plus {cs : List Char} {n : Nat} : Digits cs n → Numeral ('+' :: cs) n
  | minus {cs : List Char} {n : Nat} : Digits cs n → Numeral ('-' :: cs) (-n)

/-- The text of an integer is a numeral of it. -/
theorem numeral_toString (k : Int) : Numeral (toString k).toList k := by
  cases k with
  | ofNat n => exact .plain ⟨0, Nat.toList_repr⟩
  | negSucc n =>
    have htext : (toString (Int.negSucc n)).toList = '-' :: toDigits 10 (n + 1) := by
      show ("-" ++ Nat.repr (n + 1)).toList = _
      rw [String.toList_append, Nat.toList_repr]
      rfl
    rw [htext]
    exact .minus ⟨0, rfl⟩

/-- The first character of a numeral is a sign or a digit. -/
theorem Numeral.head {cs : List Char} {k : Int} (h : Numeral cs k) :
    ∃ c ds, cs = c :: ds ∧ (c = '+' ∨ c = '-' ∨ c.isDigit = true) := by
  cases h with
  | plain h =>
    obtain ⟨c, ds, rfl⟩ := List.exists_cons_of_ne_nil h.ne_nil
    exact ⟨c, ds, rfl, Or.inr (Or.inr h.head)⟩
  | plus h => exact ⟨_, _, rfl, Or.inl rfl⟩
  | minus h => exact ⟨_, _, rfl, Or.inr (Or.inl rfl)⟩

theorem natural?_eq_some_iff {max n : Nat} {s : String} : natural? max s = some n ↔
    n ≤ max ∧ (Digits s.toList n ∨ ∃ cs, s.toList = '+' :: cs ∧ Digits cs n) := by
  have hread (cs : List Char) :
      (digits1? cs).filter (· ≤ max) = some n ↔ n ≤ max ∧ Digits cs n := by
    rw [Option.filter_eq_some_iff, digits1?_eq_some_iff, decide_eq_true_eq, and_comm]
  unfold natural?
  dsimp only
  split
  · next cs hcs =>
    rw [hread, hcs]
    refine and_congr_right fun _ => ⟨fun h => Or.inr ⟨cs, rfl, h⟩, ?_⟩
    rintro (h | ⟨cs', heq, h⟩)
    · exact absurd rfl h.ne_sign.1
    · cases heq
      exact h
  · next hplain =>
    rw [hread]
    refine and_congr_right fun _ => ⟨Or.inl, ?_⟩
    rintro (h | ⟨cs, heq, -⟩)
    · exact h
    · exact absurd heq (hplain cs)

/-- **A text is read as an integer when it is a numeral of it** and the integer is within the
bounds, and only then. -/
theorem integer?_eq_some_iff {min max k : Int} {s : String} : integer? min max s = some k ↔
    Numeral s.toList k ∧ min ≤ k ∧ k ≤ max := by
  have hread (cs : List Char) (signed : Nat → Int) :
      ((digits1? cs).bind fun n =>
          if min ≤ signed n ∧ signed n ≤ max then some (signed n) else none) = some k ↔
        ∃ n, Digits cs n ∧ signed n = k ∧ min ≤ k ∧ k ≤ max := by
    rw [Option.bind_eq_some_iff]
    refine exists_congr fun n => and_congr digits1?_eq_some_iff ?_
    rw [Option.ite_none_right_eq_some, Option.some_inj]
    constructor
    · rintro ⟨hfits, rfl⟩
      exact ⟨rfl, hfits⟩
    · rintro ⟨rfl, hfits⟩
      exact ⟨hfits, rfl⟩
  unfold integer?
  dsimp only
  split
  · next cs hcs =>
    rw [hread cs fun n => n, hcs]
    constructor
    · rintro ⟨n, h, rfl, hfits⟩
      exact ⟨.plus h, hfits⟩
    · rintro ⟨h, hfits⟩
      cases h with
      | plain h => exact absurd rfl h.ne_sign.1
      | plus h => exact ⟨_, h, rfl, hfits⟩
  · next cs hcs =>
    rw [hread cs fun n => -n, hcs]
    constructor
    · rintro ⟨n, h, rfl, hfits⟩
      exact ⟨.minus h, hfits⟩
    · rintro ⟨h, hfits⟩
      cases h with
      | plain h => exact absurd rfl h.ne_sign.2
      | minus h => exact ⟨_, h, rfl, hfits⟩
  · next hplus hminus =>
    rw [hread s.toList fun n => n]
    constructor
    · rintro ⟨n, h, rfl, hfits⟩
      exact ⟨.plain h, hfits⟩
    · rintro ⟨h, hfits⟩
      generalize hs : s.toList = cs at h
      cases h with
      | plain h => exact ⟨_, h, rfl, hfits⟩
      | plus h => exact absurd hs (hplus _)
      | minus h => exact absurd hs (hminus _)

/-- A numeral is read unless the integer is out of bounds. -/
theorem integer?_of_numeral {min max k : Int} {s : String} (h : Numeral s.toList k) :
    integer? min max s = if min ≤ k ∧ k ≤ max then some k else none := by
  split
  · next hfits => exact integer?_eq_some_iff.mpr ⟨h, hfits⟩
  · next hfits =>
    refine Option.eq_none_iff_forall_ne_some.mpr fun k' hk' => ?_
    obtain ⟨h', hmin, hmax⟩ := integer?_eq_some_iff.mp hk'
    -- with bounds that hold both integers the same is read
    have hread : integer? (Min.min k k') (Max.max k k') s = some k :=
      integer?_eq_some_iff.mpr ⟨h, by omega, by omega⟩
    have hread' : integer? (Min.min k k') (Max.max k k') s = some k' :=
      integer?_eq_some_iff.mpr ⟨h', by omega, by omega⟩
    obtain rfl := Option.some.inj (hread.symm.trans hread')
    exact hfits ⟨hmin, hmax⟩

end Workgraph.Text
