import Workgraph.Proofs.Legibility
import Workgraph.Proofs.Rereading

/-!
# The text of a number is a literal

A number is written without knowing who will read it. This file shows that what is written is always
the text of a JSON literal, possibly behind a minus sign, unless it is the word for null.

* The digits of a floating-point number are those of a positive number (`shortest_pos`): the power
  of ten that the search begins with is at most the number (`PowerLe`), so on every finer grid at
  least one step lies below it.
* `LiteralText` are the characters that a literal is made of: digits that do not begin with a zero
  in vain, a fraction and an exponent, each of which may be missing. Whatever the layout, digits are
  put into this form (`Layout.literalText_body`), and a reader takes it in whole
  (`LiteralText.read`).
* `Number.text_cases` puts this together.
-/

namespace Workgraph

namespace Binary64

/-! ## 1. The digits of a number -/

/-- Ten to the power `e` is at most `a / b`. -/
def PowerLe (e : Int) (a b : Nat) : Prop := b * 10 ^ e.toNat ≤ a * 10 ^ (-e).toNat

theorem PowerLe.mono {e e' : Int} {a b : Nat} (h : PowerLe e a b) (hle : e' ≤ e) :
    PowerLe e' a b := by
  have hup : (10 : Nat) ^ e'.toNat ≤ 10 ^ e.toNat := Nat.pow_le_pow_right (by decide) (by omega)
  have hdown : (10 : Nat) ^ (-e).toNat ≤ 10 ^ (-e').toNat :=
    Nat.pow_le_pow_right (by decide) (by omega)
  calc b * 10 ^ e'.toNat ≤ b * 10 ^ e.toNat := Nat.mul_le_mul_left b hup
    _ ≤ a * 10 ^ (-e).toNat := h
    _ ≤ a * 10 ^ (-e').toNat := Nat.mul_le_mul_left a hdown

theorem lt_pow_length (n : Nat) : n < 10 ^ (Nat.toDigits 10 n).length :=
  (Nat.length_toDigits_le_iff (by decide) (List.length_pos_iff.mpr Nat.toDigits_ne_nil)).mp
    (Nat.le_refl _)

theorem pow_length_le {n : Nat} (h : 0 < n) : 10 ^ ((Nat.toDigits 10 n).length - 1) ≤ n := by
  rcases Nat.eq_zero_or_pos ((Nat.toDigits 10 n).length - 1) with hzero | hpos
  · rw [hzero]
    exact h
  · have hlong : ¬ (Nat.toDigits 10 n).length ≤ (Nat.toDigits 10 n).length - 1 := by omega
    exact Nat.not_lt.mp fun hlt => hlong ((Nat.length_toDigits_le_iff (by decide) hpos).mpr hlt)

/-- The numbers of digits tell the power of ten up to one. -/
theorem powerLe_lengths {a b : Nat} (ha : 0 < a) :
    PowerLe ((Nat.toDigits 10 a).length - (Nat.toDigits 10 b).length - 1) a b := by
  have hlow := pow_length_le ha
  have hhigh := Nat.le_of_lt (lt_pow_length b)
  have hdigits : 0 < (Nat.toDigits 10 a).length := List.length_pos_iff.mpr Nat.toDigits_ne_nil
  unfold PowerLe
  generalize (Nat.toDigits 10 a).length = i at hlow hdigits ⊢
  generalize (Nat.toDigits 10 b).length = j at hhigh ⊢
  calc b * 10 ^ ((i : Int) - j - 1).toNat ≤ 10 ^ j * 10 ^ ((i : Int) - j - 1).toNat :=
        Nat.mul_le_mul_right _ hhigh
    _ = 10 ^ (i - 1) * 10 ^ (-((i : Int) - j - 1)).toNat := by
        rw [← Nat.pow_add, ← Nat.pow_add]
        congr 1
        omega
    _ ≤ a * 10 ^ (-((i : Int) - j - 1)).toNat := Nat.mul_le_mul_right _ hlow

theorem powerLe_of_nonneg {e : Int} {a b : Nat} (h : 0 ≤ e) :
    PowerLe e a b ↔ b * 10 ^ e.toNat ≤ a := by
  unfold PowerLe
  rw [show (-e).toNat = 0 by omega, Nat.pow_zero, Nat.mul_one]

theorem powerLe_of_neg {e : Int} {a b : Nat} (h : ¬ 0 ≤ e) :
    PowerLe e a b ↔ b ≤ a * 10 ^ e.natAbs := by
  unfold PowerLe
  rw [show e.toNat = 0 by omega, show (-e).toNat = e.natAbs by omega, Nat.pow_zero, Nat.mul_one]

theorem powerLe_log10 {a b : Nat} (ha : 0 < a) : PowerLe (log10 a b) a b := by
  unfold log10
  dsimp only
  split_ifs with hsign hle hle
  · exact (powerLe_of_nonneg hsign).mpr (of_decide_eq_true hle)
  · exact powerLe_lengths ha
  · exact (powerLe_of_neg hsign).mpr (of_decide_eq_true hle)
  · exact powerLe_lengths ha

/-- On a grid whose step is at most the number, a decimal is not zero. -/
theorem Rounding.onGrid?_pos {r : Rounding} {k : Int} {d : Nat} (hden : 0 < r.den)
    (hle : PowerLe k r.value r.den) (h : r.onGrid? k = some d) : 0 < d := by
  have hbelow : 0 < r.value * (if 0 ≤ k then 1 else Nat.pow 10 k.natAbs) /
      ((if 0 ≤ k then Nat.pow 10 k.toNat else 1) * r.den) := by
    apply Nat.div_pos
    · split_ifs with hsign
      · rw [Nat.mul_comm, Nat.mul_one]
        exact (powerLe_of_nonneg hsign).mp hle
      · rw [Nat.one_mul]
        exact (powerLe_of_neg hsign).mp hle
    · have hpow (n : Nat) : 0 < Nat.pow 10 n := Nat.pow_pos (by decide)
      split_ifs
      · exact Nat.mul_pos (hpow _) hden
      · exact Nat.mul_pos Nat.one_pos hden
  unfold onGrid? at h
  dsimp only at h
  generalize r.value * (if 0 ≤ k then 1 else Nat.pow 10 k.natAbs) /
    ((if 0 ≤ k then Nat.pow 10 k.toNat else 1) * r.den) = below at h hbelow
  split at h
  · cases h
  · cases h
    exact hbelow
  · cases h
    exact Nat.succ_pos below
  · split_ifs at h <;> cases h <;> omega

theorem stripZeros_pos {d : Nat} (h : 0 < d) (fuel : Nat) (k : Int) :
    0 < (stripZeros fuel d k).1 := by
  induction fuel generalizing d k with
  | zero => exact h
  | succ fuel ih =>
    unfold stripZeros
    split_ifs with hzero
    · exact ih (by omega) (k + 1)
    · exact h

theorem fractionBits_eq (x : Binary64) : x.fractionBits = x.bits.toNat % 2 ^ 52 := by
  unfold fractionBits
  rw [UInt64.toNat_and]
  exact Nat.and_two_pow_sub_one_eq_mod _ 52

theorem isZero_iff (x : Binary64) : x.isZero = true ↔ x.bits.toNat * 2 % 2 ^ 64 = 0 := by
  have hshift : (x.bits <<< 1).toNat = x.bits.toNat * 2 % 2 ^ 64 := by
    rw [UInt64.toNat_shiftLeft, Nat.shiftLeft_eq]
    rfl
  unfold isZero
  rw [beq_iff_eq, ← UInt64.toNat_inj, hshift]
  rfl

theorem magnitude_pos {x : Binary64} (h : x.isZero = false) : 0 < x.magnitude.1 := by
  have hbits : x.bits.toNat * 2 % 2 ^ 64 ≠ 0 := fun hzero => by
    rw [(isZero_iff x).mpr hzero] at h
    cases h
  have hlt := x.bits.toNat_lt
  have hexponent := x.exponentBits_eq
  have hfraction := x.fractionBits_eq
  unfold magnitude
  split_ifs with hsmall
  · dsimp only
    omega
  · exact Nat.add_pos_right _ (Nat.pow_pos (by decide))

/-- **The digits of a number that is not zero** are those of a positive number. -/
theorem shortest_pos {x : Binary64} (h : x.isZero = false) : 0 < x.shortest.1 := by
  have hpow (n : Nat) : 0 < Nat.pow 2 n := Nat.pow_pos (by decide)
  have hmagnitude := magnitude_pos h
  have hvalue : 0 < x.rounding.value := by
    unfold rounding
    dsimp only
    split_ifs
    · exact Nat.mul_pos (by omega) (hpow _)
    · exact Nat.mul_pos (by omega) Nat.one_pos
  have hden : 0 < x.rounding.den := by
    unfold rounding
    dsimp only
    split_ifs
    · decide
    · exact Nat.mul_pos (by decide) (hpow _)
  have hsearch : ∀ left n,
      0 < (shortest.search x x.rounding (log10 x.rounding.value x.rounding.den) left n).1 := by
    intro left
    induction left with
    | zero => exact fun _ => Nat.mul_pos hmagnitude (hpow _)
    | succ left ih =>
      intro n
      unfold shortest.search
      split
      · next d hd =>
        have hle := (powerLe_log10 (b := x.rounding.den) hvalue).mono
          (Int.sub_le_self _ (Int.natCast_nonneg n))
        exact stripZeros_pos (Rounding.onGrid?_pos hden hle hd) 20 _
      · exact ih (n + 1)
  exact hsearch 18 0

end Binary64

/-! ## 2. What a literal is made of -/

namespace Json

variable {ds rest : Rest}

/-- Digits, one at least. -/
structure SomeDigits (ds : Rest) : Prop where
  ne_nil : ds ≠ []
  all : ∀ c ∈ ds, c.isDigit = true

/-- The digits before the point: a zero stands alone. -/
inductive WholeText : Rest → Prop
  | zero : WholeText ['0']
  | digits {c : Char} {ds : Rest} : SomeDigits (c :: ds) → c ≠ '0' → WholeText (c :: ds)

inductive FractionText : Rest → Prop
  | absent : FractionText []
  | digits {ds : Rest} : SomeDigits ds → FractionText ('.' :: ds)

inductive ExponentText : Rest → Prop
  | absent : ExponentText []
  | digits {sign : Char} {ds : Rest} : sign = '+' ∨ sign = '-' → SomeDigits ds →
    ExponentText ('e' :: sign :: ds)

/-- The characters of a literal behind its sign. -/
inductive LiteralText : Rest → Prop
  | mk {whole fraction exponent : Rest} : WholeText whole → FractionText fraction →
    ExponentText exponent → LiteralText (whole ++ (fraction ++ exponent))

/-- A literal without an exponent. -/
theorem LiteralText.plain {whole fraction : Rest} (hwhole : WholeText whole)
    (hfraction : FractionText fraction) : LiteralText (whole ++ fraction) := by
  have htext := LiteralText.mk hwhole hfraction .absent
  rwa [List.append_nil] at htext

/-- The characters that literals are made of. -/
def isNumeric (c : Char) : Bool := c.isDigit || c = '.' || c = 'e' || c = '+' || c = '-'

/-! ### Digits -/

namespace SomeDigits

theorem append {cs : Rest} (h : SomeDigits ds) (hcs : ∀ c ∈ cs, c.isDigit = true) :
    SomeDigits (ds ++ cs) where
  ne_nil := List.append_ne_nil_of_left_ne_nil h.ne_nil _
  all c hc := (List.mem_append.mp hc).elim (h.all c) (hcs c)

theorem part {cs : Rest} (h : SomeDigits ds) (hcs : cs ≠ []) (hpart : cs ⊆ ds) :
    SomeDigits cs where
  ne_nil := hcs
  all _ hc := h.all _ (hpart hc)

theorem toDigits (n : Nat) : SomeDigits (Nat.toDigits 10 n) where
  ne_nil := Nat.toDigits_ne_nil
  all _ hc := Nat.isDigit_of_mem_toDigits (by decide) (by decide) hc

theorem numeric (h : SomeDigits ds) : ∀ c ∈ ds, isNumeric c = true := fun c hc => by
  unfold isNumeric
  rw [h.all c hc]
  rfl

theorem takeDigits (h : SomeDigits ds) (hrest : ∀ c ∈ rest.head?, c.isDigit = false) :
    takeDigits (ds ++ rest) = (ds, rest) := by
  have hstop : rest.takeWhile Char.isDigit = [] ∧ rest.dropWhile Char.isDigit = rest := by
    cases rest with
    | nil => exact ⟨rfl, rfl⟩
    | cons c r =>
      have hc : ¬ c.isDigit = true := Bool.eq_false_iff.mp (hrest c rfl)
      exact ⟨List.takeWhile_cons_of_neg hc, List.dropWhile_cons_of_neg hc⟩
  rw [takeDigits_eq, List.takeWhile_append_of_pos h.all, List.dropWhile_append_of_pos h.all,
    hstop.1, hstop.2, List.append_nil]

theorem someDigits? (h : SomeDigits ds) (hrest : ∀ c ∈ rest.head?, c.isDigit = false) :
    someDigits? (ds ++ rest) = some (ds, rest) := by
  have hne := h.ne_nil
  unfold Json.someDigits?
  rw [h.takeDigits hrest]
  cases ds with
  | nil => exact absurd rfl hne
  | cons c ds => rfl

end SomeDigits

/-! ### Reading -/

theorem WholeText.read {whole : Rest} (h : WholeText whole)
    (hrest : ∀ c ∈ rest.head?, c.isDigit = false) :
    readWhole? (whole ++ rest) = some (whole, rest) := by
  unfold readWhole?
  cases h with
  | zero =>
    have hzero : SomeDigits ['0'] := ⟨List.cons_ne_nil _ _, List.forall_mem_singleton.mpr rfl⟩
    rw [hzero.takeDigits hrest]
    rfl
  | digits hdigits hc =>
    rw [hdigits.takeDigits hrest]
    split
    · rename_i heq
      cases heq
    · rename_i heq
      cases heq
      exact absurd rfl hc
    · rfl

/-- What may follow a literal's digits in the literal: its exponent, or nothing. -/
theorem ExponentText.head {exponent : Rest} (h : ExponentText exponent) :
    ∀ c ∈ exponent.head?, c.isDigit = false ∧ c ≠ '.' := by
  cases h with
  | absent => exact nofun
  | digits =>
    rintro c ⟨⟩
    decide

theorem ExponentText.read {exponent : Rest} (h : ExponentText exponent) :
    ∃ found, readExponent? exponent = some (found, []) := by
  cases h with
  | absent => exact ⟨none, rfl⟩
  | @digits sign ds hsign hdigits =>
    have hread : someDigits? (ds ++ []) = some (ds, []) := hdigits.someDigits? nofun
    rw [List.append_nil] at hread
    refine ⟨some ((exponentSign (sign :: ds)).1, ds), ?_⟩
    rw [readExponent?_cons, if_pos (.inl rfl)]
    rcases hsign with rfl | rfl <;> exact congrArg _ hread

theorem FractionText.head {fraction exponent : Rest} (h : FractionText fraction)
    (hexponent : ExponentText exponent) :
    ∀ c ∈ (fraction ++ exponent).head?, c.isDigit = false := by
  cases h with
  | absent => exact fun c hc => (hexponent.head c hc).1
  | digits =>
    rintro c ⟨⟩
    decide

theorem FractionText.read {fraction exponent : Rest} (h : FractionText fraction)
    (hexponent : ExponentText exponent) :
    ∃ found, readFraction? (fraction ++ exponent) = some (found, exponent) := by
  have hhead := hexponent.head
  cases h with
  | absent =>
    refine ⟨none, ?_⟩
    cases exponent with
    | nil => rfl
    | cons c r => exact readFraction?_of_ne (hhead c rfl).2 r
  | @digits ds hdigits =>
    refine ⟨some ds, ?_⟩
    rw [List.cons_append, readFraction?_dot, hdigits.someDigits? fun c hc => (hhead c hc).1]
    rfl

/-- **The characters of a literal are read whole.** -/
theorem LiteralText.read {cs : Rest} (h : LiteralText cs) (negative : Bool) :
    ∃ l, readLiteral? negative cs = some (l, []) := by
  obtain @⟨whole, fraction, exponent, hwhole, hfraction, hexponent⟩ := h
  obtain ⟨places, hplaces⟩ := hfraction.read hexponent
  obtain ⟨power, hpower⟩ := hexponent.read
  refine ⟨⟨negative, whole, places, power⟩, ?_⟩
  rw [readLiteral?_eq, hwhole.read (hfraction.head hexponent), Option.bind_some, hplaces,
    Option.bind_some, hpower]
  rfl

theorem LiteralText.numeric {cs : Rest} (h : LiteralText cs) : ∀ c ∈ cs, isNumeric c = true := by
  obtain @⟨whole, fraction, exponent, hwhole, hfraction, hexponent⟩ := h
  have hw : ∀ c ∈ whole, isNumeric c = true := by
    cases hwhole with
    | zero => exact List.forall_mem_singleton.mpr rfl
    | digits hdigits _ => exact hdigits.numeric
  have hf : ∀ c ∈ fraction, isNumeric c = true := by
    cases hfraction with
    | absent => exact nofun
    | digits hdigits => exact List.forall_mem_cons.mpr ⟨by decide, hdigits.numeric⟩
  have he : ∀ c ∈ exponent, isNumeric c = true := by
    cases hexponent with
    | absent => exact nofun
    | digits hsign hdigits =>
      refine List.forall_mem_cons.mpr ⟨by decide, List.forall_mem_cons.mpr ⟨?_, hdigits.numeric⟩⟩
      rcases hsign with rfl | rfl <;> decide
  intro c hc
  rw [List.mem_append, List.mem_append] at hc
  exact hc.elim (hw c) fun hc => hc.elim (hf c) (he c)

end Json

/-! ## 3. What is written -/

namespace Binary64

open Json

/-- The text of an exponent, with its sign. -/
def signedExponent (e : Int) : String :=
  if e < 0 then "e-" ++ toString e.natAbs else "e+" ++ toString e.natAbs

/-- What stands behind a whole number. -/
def Layout.ending (f : Layout) : String := if f.keepsPoint then ".0" else ""

/-- The text of the digits of `d` times ten to the power `k`. -/
def Layout.body (f : Layout) (d : Nat) (k : Int) : String :=
  let ds := Nat.toDigits 10 d
  let point : Int := ds.length + k
  if 0 ≤ k ∧ point ≤ f.wholePlaces then
    String.ofList (ds ++ List.replicate k.toNat '0') ++ f.ending
  else if 0 < point ∧ point ≤ f.wholePlaces then
    String.ofList (ds.take point.toNat ++ '.' :: ds.drop point.toNat)
  else if -(f.leadingZeros : Int) < point ∧ point ≤ 0 then
    String.ofList ('0' :: '.' :: (List.replicate point.natAbs '0' ++ ds))
  else
    match ds with
    | [c] => String.singleton c ++ signedExponent (point - 1)
    | c :: rest => String.ofList (c :: '.' :: rest) ++ signedExponent (point - 1)
    | [] => ""

theorem Layout.write_eq (f : Layout) (x : Binary64) : f.write x =
    if x.isZero then
      (if x.isNegative && f.signedZero then "-0" else "0") ++ f.ending
    else if x.isNegative then "-" ++ f.body x.shortest.1 x.shortest.2
    else f.body x.shortest.1 x.shortest.2 := rfl

theorem exponentText_signed (e : Int) : ExponentText (signedExponent e).toList := by
  have hdigits : SomeDigits (toString e.natAbs).toList := by
    rw [Nat.toString_eq_repr, Nat.toList_repr]
    exact .toDigits _
  unfold signedExponent
  split_ifs
  · rw [String.toList_append]
    exact .digits (.inr rfl) hdigits
  · rw [String.toList_append]
    exact .digits (.inl rfl) hdigits

theorem Layout.fractionText_ending (f : Layout) : FractionText f.ending.toList := by
  unfold ending
  split_ifs
  · exact .digits ⟨List.cons_ne_nil _ _, List.forall_mem_singleton.mpr rfl⟩
  · exact .absent

/-- **The digits of a positive number, laid out in any way, are a literal.** -/
theorem Layout.literalText_body (f : Layout) {d : Nat} (hd : 0 < d) (k : Int) :
    LiteralText (f.body d k).toList := by
  obtain ⟨c, cs, hcs, hc⟩ := Number.toDigits_cons hd
  have hdigits := SomeDigits.toDigits d
  have hzeros (n : Nat) : ∀ c ∈ List.replicate n '0', c.isDigit = true := fun c hc => by
    rw [List.eq_of_mem_replicate hc]
    rfl
  unfold body
  rw [hcs] at hdigits ⊢
  dsimp only
  split_ifs with hwhole hpoint hsmall
  · rw [String.toList_append, String.toList_ofList]
    exact .plain (.digits (hdigits.append (hzeros k.toNat)) hc) f.fractionText_ending
  · -- the point stands within the digits
    rw [String.toList_ofList]
    obtain ⟨n, hn⟩ : ∃ n, ((c :: cs).length + k).toNat = n + 1 :=
      Nat.exists_eq_add_one_of_ne_zero (by omega)
    have hlt : n < cs.length := by
      rw [List.length_cons] at hn hwhole hpoint
      omega
    rw [hn, List.take_succ_cons, List.drop_succ_cons]
    have hfront : SomeDigits (c :: cs.take n) :=
      hdigits.part (List.cons_ne_nil _ _) (List.cons_subset_cons c (List.take_subset n cs))
    have hback : SomeDigits (cs.drop n) :=
      hdigits.part (List.ne_nil_of_length_pos (by rw [List.length_drop]; omega))
        (List.subset_cons_of_subset c (List.drop_subset n cs))
    exact .plain (.digits hfront hc) (.digits hback)
  · rw [String.toList_ofList]
    have hplaces : SomeDigits (List.replicate ((c :: cs).length + k).natAbs '0' ++ c :: cs) :=
      ⟨List.append_ne_nil_of_right_ne_nil _ hdigits.ne_nil, fun x hx =>
        (List.mem_append.mp hx).elim (hzeros _ x) (hdigits.all x)⟩
    exact .plain .zero (.digits hplaces)
  · have hexponent := exponentText_signed ((c :: cs).length + k - 1)
    have hfirst : SomeDigits [c] :=
      hdigits.part (List.cons_ne_nil _ _) (List.cons_subset_cons c (List.nil_subset cs))
    cases cs with
    | nil =>
      rw [String.toList_append, String.toList_singleton]
      exact .mk (.digits hfirst hc) .absent hexponent
    | cons c' cs =>
      rw [String.toList_append, String.toList_ofList]
      have hback : SomeDigits (c' :: cs) :=
        hdigits.part (List.cons_ne_nil _ _) (List.subset_cons_self c (c' :: cs))
      exact .mk (.digits hfirst hc) (.digits hback) hexponent

/-- **A number is written as a literal**, in any layout, perhaps behind a minus sign. -/
theorem Layout.write_cases (f : Layout) (x : Binary64) :
    ∃ cs, LiteralText cs ∧ ((f.write x).toList = cs ∨ (f.write x).toList = '-' :: cs) := by
  rw [write_eq]
  cases hzero : x.isZero with
  | true =>
    refine ⟨_, .plain .zero f.fractionText_ending, ?_⟩
    rw [if_pos rfl, String.toList_append]
    cases x.isNegative && f.signedZero with
    | true => exact .inr rfl
    | false => exact .inl rfl
  | false =>
    refine ⟨_, f.literalText_body (shortest_pos hzero) x.shortest.2, ?_⟩
    rw [if_neg Bool.false_ne_true]
    cases x.isNegative with
    | true => exact .inr String.toList_append
    | false => exact .inl rfl

end Binary64

namespace Json

/-- **The text of a number** is a literal, perhaps behind a minus sign, unless the number is not
finite and the word for null stands for it. -/
theorem Number.text_cases (n : Number) : n.text.toList = ['n', 'u', 'l', 'l'] ∨
    ∃ cs, LiteralText cs ∧ (n.text.toList = cs ∨ n.text.toList = '-' :: cs) := by
  have hinteger (n : Nat) : LiteralText (Nat.toDigits 10 n) := by
    have hwhole : WholeText (Nat.toDigits 10 n) := by
      rcases Nat.eq_zero_or_pos n with rfl | hpos
      · exact .zero
      · obtain ⟨c, cs, hcs, hc⟩ := toDigits_cons hpos
        have hdigits := SomeDigits.toDigits n
        rw [hcs] at hdigits ⊢
        exact .digits hdigits hc
    have htext := LiteralText.plain hwhole .absent
    rwa [List.append_nil] at htext
  cases n with
  | integer i =>
    refine .inr ?_
    cases i with
    | ofNat n => exact ⟨_, hinteger n, .inl Nat.toList_repr⟩
    | negSucc n =>
      refine ⟨_, hinteger (n + 1), .inr ?_⟩
      change ("-" ++ (n + 1).repr).toList = _
      rw [String.toList_append, Nat.toList_repr]
      rfl
  | real x =>
    have htext : (Number.real x).text = if x.isFinite then realLayout.write x else "null" := rfl
    rw [htext]
    split_ifs
    · exact .inr (realLayout.write_cases x)
    · exact .inl rfl

end Json

end Workgraph
