import Mathlib.Data.List.TakeDrop
import Mathlib.Data.List.TakeWhile
import Workgraph.Json.Printer
import Workgraph.Json.Reader
import Workgraph.Proofs.Documents

/-!
# Texts and numbers that are read as they were written

* a text is written with escapes and read back character by character: each character is written as
  itself, by a short escape or by its number (`escaped_cases`), and read as itself
  (`readString?_escaped`);
* a number is `Legible` when it is read from its text, whole. Then it is read just so where other
  things follow, as long as these do not go on with it (`Ends`, `Legible.readValue?`). Integers of
  64 bits are legible (`legible_integer`);
* a literal denotes only integers of 64 bits and finite numbers (`isProper_of_number?`).
-/

namespace Workgraph.Json

/-! ## 1. Strings -/

/-- A character is written as itself, as a short escape, or by its number. -/
theorem escaped_cases (c : Char) :
    (escaped c = [c] ∧ c ≠ '"' ∧ c ≠ '\\' ∧ 32 ≤ c.toNat) ∨
    (∃ e, escaped c = ['\\', e] ∧ e ≠ 'u' ∧ shortEscape? e = some c ∧ isPlain c = false) ∨
    (∃ a b, escaped c = ['\\', 'u', '0', '0', a, b] ∧ hex4? '0' '0' a b = some c.toNat ∧
      c.toNat < 32) := by
  unfold escaped
  split_ifs with hquote hbackslash hn hr ht hb hf hcontrol
  · exact .inr (.inl ⟨_, rfl, by decide, by subst hquote; decide, by subst hquote; decide⟩)
  · exact .inr (.inl ⟨_, rfl, by decide, by subst hbackslash; decide, by subst hbackslash; decide⟩)
  · exact .inr (.inl ⟨_, rfl, by decide, by subst hn; decide, by subst hn; decide⟩)
  · exact .inr (.inl ⟨_, rfl, by decide, by subst hr; decide, by subst hr; decide⟩)
  · exact .inr (.inl ⟨_, rfl, by decide, by subst ht; decide, by subst ht; decide⟩)
  · refine .inr (.inl ⟨_, rfl, by decide, ?_⟩)
    rw [← Char.ofNat_toNat c, hb]
    decide
  · refine .inr (.inl ⟨_, rfl, by decide, ?_⟩)
    rw [← Char.ofNat_toNat c, hf]
    decide
  · refine .inr (.inr ⟨_, _, rfl, ?_, hcontrol⟩)
    revert hcontrol
    generalize c.toNat = n
    revert n
    decide
  · exact .inl ⟨rfl, hquote, hbackslash, not_lt.mp hcontrol⟩

theorem readString?_plain {c : Char} (hquote : c ≠ '"') (hbackslash : c ≠ '\\')
    (hcontrol : 32 ≤ c.toNat) (good : Bool) (acc : List Char) (rest : Rest) :
    readString? good acc (c :: rest) = readString? good (c :: acc) rest := by
  rw [readString?.eq_def]
  split
  case h_1 heq => exact absurd (List.cons.inj heq).1 hquote
  case h_5 heq =>
    cases heq
    exact if_neg (not_lt.mpr hcontrol)
  case h_6 heq => cases heq
  all_goals
    rename_i heq
    exact absurd (List.cons.inj heq).1 hbackslash

theorem readString?_short {c e : Char} (he : e ≠ 'u') (hshort : shortEscape? e = some c)
    (good : Bool) (acc : List Char) (rest : Rest) :
    readString? good acc ('\\' :: e :: rest) = readString? good (c :: acc) rest := by
  rw [readString?.eq_def]
  split
  case h_4 heq =>
    cases heq
    rw [hshort]
  case h_5 hother heq =>
    cases heq
    exact absurd rfl (hother _ _ rfl)
  all_goals
    rename_i heq
    cases heq
    try exact absurd rfl he

theorem readString?_hex {a b : Char} {c : Char} (hhex : hex4? '0' '0' a b = some c.toNat)
    (hcontrol : c.toNat < 32) (good : Bool) (acc : List Char) (rest : Rest) :
    readString? good acc ('\\' :: 'u' :: '0' :: '0' :: a :: b :: rest) =
      readString? good (c :: acc) rest := by
  have hhigh : isHighSurrogate c.toNat = false := by
    rw [isHighSurrogate, Bool.and_eq_false_iff, decide_eq_false_iff_not]
    exact .inl (by omega)
  have hlow : isLowSurrogate c.toNat = false := by
    rw [isLowSurrogate, Bool.and_eq_false_iff, decide_eq_false_iff_not]
    exact .inl (by omega)
  have hchar : unitChar? c.toNat = some c := by
    rw [unitChar?, hhigh, hlow, if_neg (by decide), Char.ofNat_toNat]
  rw [readString?.eq_def]
  -- What follows may be an escape by number as well, but this one is half of no pair.
  split
  case h_2 heq =>
    cases heq
    rw [hhex]
    dsimp only
    rw [hhigh]
    dsimp only
    rw [hchar]
  case h_3 heq =>
    cases heq
    rw [hhex]
    dsimp only
    rw [hchar]
  case h_4 hother heq =>
    cases heq
    exact absurd rfl (hother _ _ _ _ _ rfl)
  case h_5 hother heq =>
    cases heq
    exact absurd rfl (hother _ _ rfl)
  all_goals
    rename_i heq
    cases heq

/-- A character that was written is read as itself. -/
theorem readString?_escaped (good : Bool) (acc : List Char) (c : Char) (rest : Rest) :
    readString? good acc (escaped c ++ rest) = readString? good (c :: acc) rest := by
  rcases escaped_cases c with ⟨h, hquote, hbackslash, hcontrol⟩ | ⟨e, h, he, hshort, -⟩ |
    ⟨a, b, h, hhex, hcontrol⟩
  · rw [h]
    exact readString?_plain hquote hbackslash hcontrol good acc rest
  · rw [h]
    exact readString?_short he hshort good acc rest
  · rw [h]
    exact readString?_hex hhex hcontrol good acc rest

/-- **A text that was written is read as itself.** -/
theorem readString?_escapedText (cs acc : List Char) (rest : Rest) :
    readString? true acc (cs.flatMap escaped ++ '"' :: rest) =
      some (some (String.ofList (acc.reverse ++ cs)), rest) := by
  induction cs generalizing acc with
  | nil =>
    rw [List.flatMap_nil, List.nil_append, List.append_nil, readString?]
    rfl
  | cons c cs ih =>
    rw [List.flatMap_cons, List.append_assoc, readString?_escaped, ih, List.reverse_cons,
      List.append_assoc, List.singleton_append]

theorem escaped_of_isPlain {c : Char} (h : isPlain c = true) : escaped c = [c] := by
  rcases escaped_cases c with ⟨hself, -⟩ | ⟨e, -, -, -, hescaped⟩ | ⟨_, _, -, -, hcontrol⟩
  · exact hself
  · rw [h] at hescaped
    cases hescaped
  · unfold isPlain at h
    rw [Bool.and_eq_true, decide_eq_true_iff] at h
    exact absurd h.2 (Nat.not_le_of_lt hcontrol)

theorem toList_quoted (s : String) : (quoted s).toList = '"' :: (escapedText s ++ ['"']) := by
  unfold quoted
  split_ifs with hplain
  · rw [String.all_bool_eq, List.all_eq_true] at hplain
    have hself : escapedText s = s.toList := by
      have hall : ∀ c ∈ s.toList, escaped c = [c] := fun c hc =>
        escaped_of_isPlain (hplain c hc)
      unfold escapedText
      rw [List.flatMap_congr hall, List.flatMap_singleton']
    rw [hself]
    simp
  · simp

/-! ## 2. Numbers -/

/-- What may follow a number: nothing that goes on with it. -/
def Ends (rest : Rest) : Prop :=
  ∀ c ∈ rest.head?, c.isDigit = false ∧ c ≠ '.' ∧ c ≠ 'e' ∧ c ≠ 'E'

variable {rest : Rest}

theorem takeDigits_eq (cs : Rest) :
    takeDigits cs = (cs.takeWhile Char.isDigit, cs.dropWhile Char.isDigit) :=
  List.span_eq_takeWhile_dropWhile ..

theorem takeDigits_cons (c : Char) (cs : Rest) : takeDigits (c :: cs) =
    if c.isDigit then (c :: (takeDigits cs).1, (takeDigits cs).2) else ([], c :: cs) := by
  rw [takeDigits_eq, takeDigits_eq]
  by_cases hc : c.isDigit <;> simp [hc]

theorem takeDigits_append (hrest : Ends rest) (cs : Rest) :
    takeDigits (cs ++ rest) = ((takeDigits cs).1, (takeDigits cs).2 ++ rest) := by
  induction cs with
  | nil =>
    cases rest with
    | nil => rfl
    | cons c r =>
      have hc : ¬ c.isDigit := Bool.eq_false_iff.mp (hrest c rfl).1
      rw [List.nil_append, takeDigits_cons, if_neg hc]
      rfl
  | cons c cs ih =>
    rw [List.cons_append, takeDigits_cons, takeDigits_cons, ih]
    split_ifs <;> rfl

/-- Digits, one at least. -/
def someDigits? (cs : Rest) : Option (List Char × Rest) :=
  match takeDigits cs with
  | ([], _) => none
  | found => some found

theorem someDigits?_append (hrest : Ends rest) {cs ds r : Rest}
    (h : someDigits? cs = some (ds, r)) : someDigits? (cs ++ rest) = some (ds, r ++ rest) := by
  unfold someDigits? at h ⊢
  rw [takeDigits_append hrest]
  generalize takeDigits cs = found at h ⊢
  obtain ⟨_ | ⟨c, ds'⟩, r'⟩ := found
  · cases h
  · cases h
    rfl

theorem readFraction?_dot (cs : Rest) :
    readFraction? ('.' :: cs) = (someDigits? cs).map fun p => (some p.1, p.2) := by
  unfold someDigits?
  rw [readFraction?]
  obtain ⟨_ | ⟨c, ds⟩, r⟩ := takeDigits cs <;> rfl

theorem readFraction?_of_ne {c : Char} (h : c ≠ '.') (cs : Rest) :
    readFraction? (c :: cs) = some (none, c :: cs) := by
  rw [readFraction?.eq_def]
  split
  · rename_i heq
    exact absurd (List.cons.inj heq).1 h
  · rfl

theorem readFraction?_append (hrest : Ends rest) {cs r : Rest} {f : Option (List Char)}
    (h : readFraction? cs = some (f, r)) : readFraction? (cs ++ rest) = some (f, r ++ rest) := by
  cases cs with
  | nil =>
    cases h
    cases rest with
    | nil => rfl
    | cons c r => exact readFraction?_of_ne (hrest c rfl).2.1 r
  | cons c cs =>
    rw [List.cons_append]
    by_cases hc : c = '.'
    · subst hc
      rw [readFraction?_dot] at h ⊢
      obtain ⟨⟨ds, r'⟩, hds, heq⟩ := Option.map_eq_some_iff.mp h
      cases heq
      rw [someDigits?_append hrest hds]
      rfl
    · rw [readFraction?_of_ne hc] at h ⊢
      cases h
      rfl

/-- Whether the exponent is negative, and what follows its sign. -/
def exponentSign : Rest → Bool × Rest
  | '+' :: r => (false, r)
  | '-' :: r => (true, r)
  | r => (false, r)

theorem exponentSign_append {cs : Rest} (h : cs ≠ []) (rest : Rest) :
    exponentSign (cs ++ rest) = ((exponentSign cs).1, (exponentSign cs).2 ++ rest) := by
  cases cs with
  | nil => exact absurd rfl h
  | cons c cs =>
    rw [List.cons_append, exponentSign.eq_def, exponentSign.eq_def]
    by_cases hplus : c = '+'
    · subst hplus
      rfl
    · by_cases hminus : c = '-'
      · subst hminus
        rfl
      · simp [hplus, hminus]

theorem readExponent?_eq (c : Char) (cs : Rest) : readExponent? (c :: cs) =
    if c = 'e' ∨ c = 'E' then
      match takeDigits (exponentSign cs).2 with
      | ([], _) => none
      | (ds, r) => some (some ((exponentSign cs).1, ds), r)
    else some (none, c :: cs) := rfl

theorem readExponent?_cons (c : Char) (cs : Rest) : readExponent? (c :: cs) =
    if c = 'e' ∨ c = 'E' then
      (someDigits? (exponentSign cs).2).map fun p => (some ((exponentSign cs).1, p.1), p.2)
    else some (none, c :: cs) := by
  rw [readExponent?_eq, someDigits?]
  obtain ⟨_ | ⟨c, ds⟩, r⟩ := takeDigits (exponentSign cs).2 <;> rfl

theorem readExponent?_append (hrest : Ends rest) {cs r : Rest}
    {e : Option (Bool × List Char)} (h : readExponent? cs = some (e, r)) :
    readExponent? (cs ++ rest) = some (e, r ++ rest) := by
  cases cs with
  | nil =>
    cases h
    cases rest with
    | nil => rfl
    | cons c r =>
      obtain ⟨-, -, hc⟩ := hrest c rfl
      rw [List.nil_append, readExponent?_cons, if_neg (not_or.mpr hc)]
  | cons c cs =>
    rw [List.cons_append, readExponent?_cons]
    rw [readExponent?_cons] at h
    split_ifs at h ⊢ with hc
    · obtain ⟨⟨ds, r'⟩, hds, heq⟩ := Option.map_eq_some_iff.mp h
      cases heq
      have hcs : cs ≠ [] := by
        rintro rfl
        cases hds
      rw [exponentSign_append hcs]
      dsimp only
      rw [someDigits?_append hrest hds]
      rfl
    · cases h
      rfl

/-- The digits of a number before its point: a zero stands alone. -/
def readWhole? (cs : Rest) : Option (List Char × Rest) :=
  match takeDigits cs with
  | ([], _) => none
  | ('0' :: _ :: _, _) => none
  | found => some found

theorem readLiteral?_eq (negative : Bool) (cs : Rest) : readLiteral? negative cs =
    (readWhole? cs).bind fun whole => (readFraction? whole.2).bind fun fraction =>
      (readExponent? fraction.2).bind fun exponent =>
        some (⟨negative, whole.1, fraction.1, exponent.1⟩, exponent.2) := by
  unfold readLiteral? readWhole?
  split
  · rename_i c r
    have hzero : '0'.isDigit = true := by decide
    rw [takeDigits_cons, if_pos hzero, takeDigits_cons]
    split_ifs <;> rfl
  · rename_i hzero
    split
    · rename_i heq
      rw [heq]
      rfl
    · rename_i ds r hne heq
      have hparts : cs = ds ++ r := by
        rw [takeDigits_eq] at heq
        cases heq
        exact List.takeWhile_append_dropWhile.symm
      rw [heq]
      split
      · exact absurd (congrArg Prod.fst ‹_›) hne
      · rename_i hds
        cases hds
        exact absurd hparts (hzero _ _)
      · rfl

theorem readWhole?_append (hrest : Ends rest) {cs ds r : Rest} (h : readWhole? cs = some (ds, r)) :
    readWhole? (cs ++ rest) = some (ds, r ++ rest) := by
  unfold readWhole? at h ⊢
  rw [takeDigits_append hrest]
  generalize takeDigits cs = found at h ⊢
  split at h
  · cases h
  · cases h
  · rename_i hnil hzero
    cases h
    split
    · rename_i heq
      cases heq
      exact absurd rfl (hnil _)
    · rename_i heq
      cases heq
      exact absurd rfl (hzero _ _ _)
    · rfl

theorem readLiteral?_append (hrest : Ends rest) {negative : Bool} {cs r : Rest} {l : Number.Literal}
    (h : readLiteral? negative cs = some (l, r)) :
    readLiteral? negative (cs ++ rest) = some (l, r ++ rest) := by
  rw [readLiteral?_eq] at h ⊢
  obtain ⟨⟨whole, r₁⟩, hwhole, h⟩ := Option.bind_eq_some_iff.mp h
  obtain ⟨⟨fraction, r₂⟩, hfraction, h⟩ := Option.bind_eq_some_iff.mp h
  obtain ⟨⟨exponent, r₃⟩, hexponent, h⟩ := Option.bind_eq_some_iff.mp h
  cases h
  rw [readWhole?_append hrest hwhole, Option.bind_some, readFraction?_append hrest hfraction,
    Option.bind_some, readExponent?_append hrest hexponent]
  rfl

/-- A literal begins with a digit. -/
theorem isDigit_of_readLiteral? {negative : Bool} {cs r : Rest} {l : Number.Literal}
    (h : readLiteral? negative cs = some (l, r)) : ∃ c cs', cs = c :: cs' ∧ c.isDigit = true := by
  rw [readLiteral?_eq] at h
  obtain ⟨whole, hwhole, -⟩ := Option.bind_eq_some_iff.mp h
  cases cs with
  | nil => cases hwhole
  | cons c cs =>
    refine ⟨c, cs, rfl, ?_⟩
    by_contra hc
    rw [readWhole?, takeDigits_cons, if_neg hc] at hwhole
    cases hwhole

/-- The document of a literal. -/
def Number.Literal.document (l : Number.Literal) : Document :=
  match l.number? with
  | some n => .number n
  | none => .unreadable

theorem readValue?_literal {fuel depth : Nat} {cs r : Rest} {l : Number.Literal}
    (h : readLiteral? false cs = some (l, r)) :
    readValue? (fuel + 1) depth cs = some (l.document, r) := by
  obtain ⟨c, cs, rfl, hc⟩ := isDigit_of_readLiteral? h
  rw [readValue?.eq_def]
  dsimp only
  split
  case h_8 =>
    rw [h]
    rfl
  all_goals
    rename_i heq
    cases heq
    exact absurd hc (by decide)

theorem readValue?_minus (fuel depth : Nat) (cs : Rest) : readValue? (fuel + 1) depth ('-' :: cs) =
    (readLiteral? true cs).map fun p => (p.1.document, p.2) := by
  rw [readValue?.eq_def]
  rfl

theorem Number.Literal.number?_of_document {l : Number.Literal} {n : Number}
    (h : l.document = .number n) : l.number? = some n := by
  unfold document at h
  split at h
  · cases h
    assumption
  · cases h

/-- What is read as a number is a literal, with or without a sign. -/
theorem literal_of_readValue? {depth : Nat} {cs r : Rest} {n : Number}
    (h : readValue? 1 (depth + 1) cs = some (.number n, r)) :
    ∃ l : Number.Literal, l.number? = some n ∧ (readLiteral? false cs = some (l, r) ∨
      ∃ cs', cs = '-' :: cs' ∧ readLiteral? true cs' = some (l, r)) := by
  rw [readValue?.eq_def] at h
  dsimp only at h
  split at h
  case h_4 cs =>
    obtain ⟨⟨l, r'⟩, hl, heq⟩ := Option.map_eq_some_iff.mp h
    obtain ⟨hdocument, rfl⟩ := Prod.mk.inj heq
    exact ⟨l, Number.Literal.number?_of_document hdocument, .inr ⟨cs, rfl, hl⟩⟩
  case h_8 =>
    obtain ⟨⟨l, r'⟩, hl, heq⟩ := Option.map_eq_some_iff.mp h
    obtain ⟨hdocument, rfl⟩ := Prod.mk.inj heq
    exact ⟨l, Number.Literal.number?_of_document hdocument, .inl hl⟩
  case h_1 =>
    split at h
    · cases h
    · rw [readItems?] at h
      cases h
  case h_2 =>
    split at h
    · cases h
    · rw [readMembers?] at h
      cases h
  case h_3 =>
    obtain ⟨⟨s, r'⟩, -, heq⟩ := Option.map_eq_some_iff.mp h
    cases s <;> cases heq
  all_goals
    obtain ⟨_, -, heq⟩ := Option.map_eq_some_iff.mp h
    cases heq

/-- A number is read from its text, whole. -/
def Number.Legible (n : Number) : Prop :=
  readValue? 1 maxDepth n.text.toList = some (.number n, [])

namespace Number

open Nat (toDigits ofDigitChars)

/-- Digits whose number fits in 64 bits are all collected. -/
theorem collectWhole_eq {cs : List Char} {m : Nat} (h : ofDigitChars 10 cs m ≤ Width.natural64) :
    collectWhole m cs = (ofDigitChars 10 cs m, 0) := by
  induction cs generalizing m with
  | nil => rfl
  | cons c cs ih =>
    rw [Nat.ofDigitChars_cons] at h ⊢
    have hle (k : Nat) : k ≤ ofDigitChars 10 cs k := by
      rw [Nat.ofDigitChars_eq_ofDigitChars_zero]
      exact (Nat.le_mul_of_pos_left k (Nat.pow_pos (by decide))).trans (Nat.le_add_right ..)
    unfold collectWhole
    exact (if_pos ((hle _).trans h)).trans (ih h)

/-- Digits that are collected fit in 64 bits. -/
theorem collectWhole_le {m : Nat} (h : m ≤ Width.natural64) (cs : List Char) :
    (collectWhole m cs).1 ≤ Width.natural64 := by
  induction cs generalizing m with
  | nil => exact h
  | cons c cs ih =>
    unfold collectWhole
    dsimp only
    split_ifs with hnext
    · exact ih hnext
    · exact h

/-- **A literal denotes only numbers that a text can say.** -/
theorem isProper_of_number? {l : Literal} {n : Number} (h : l.number? = some n) :
    n.isProper = true := by
  have hreal {x : Option Number} (hx : x = l.real?.map .real) (h : x = some n) :
      n.isProper = true := by
    subst hx
    obtain ⟨y, hy, rfl⟩ := Option.map_eq_some_iff.mp h
    exact (Option.filter_eq_some_iff.mp hy).2
  unfold Literal.number? at h
  split at h
  · have hle := collectWhole_le (Nat.zero_le _) l.whole
    dsimp only at h
    split_ifs at h with hplain hnegative
    · cases h
      exact isProper_integer.mpr ⟨(by decide : Width.least64 ≤ 0).trans (Int.natCast_nonneg _),
        Int.ofNat_le.mpr hle⟩
    · cases h
      exact isProper_integer.mpr ⟨hnegative.2.2,
        (Int.neg_nonpos_of_nonneg (Int.natCast_nonneg _)).trans (by decide)⟩
    · exact hreal rfl h
  · exact hreal rfl h

/-- The digits of a number do not begin with a zero, unless it is zero. -/
theorem toDigits_cons {n : Nat} (h : 0 < n) : ∃ c cs, toDigits 10 n = c :: cs ∧ c ≠ '0' := by
  have hdigit : ∀ d < 10, 0 < d → d.digitChar ≠ '0' := by decide
  induction n using Nat.strong_induction_on with
  | _ n ih =>
    by_cases hlt : n < 10
    · exact ⟨n.digitChar, [], Nat.toDigits_of_lt_base hlt, hdigit n hlt h⟩
    · have hle : 10 ≤ n := not_lt.mp hlt
      obtain ⟨c, cs, hcs, hc⟩ := ih (n / 10) (Nat.div_lt_self h (by decide))
        (Nat.div_pos hle (by decide))
      exact ⟨c, cs ++ [(n % 10).digitChar], by
        rw [Nat.toDigits_of_base_le (by decide) hle, hcs, List.cons_append], hc⟩

theorem takeDigits_toDigits (n : Nat) : takeDigits (toDigits 10 n) = (toDigits 10 n, []) := by
  have hall : ∀ c ∈ toDigits 10 n, c.isDigit = true := fun c hc =>
    Nat.isDigit_of_mem_toDigits (by decide) (by decide) hc
  rw [takeDigits_eq, List.takeWhile_eq_self_iff.mpr hall, List.dropWhile_eq_nil_iff.mpr hall]

theorem readWhole?_toDigits (n : Nat) : readWhole? (toDigits 10 n) = some (toDigits 10 n, []) := by
  rcases Nat.eq_zero_or_pos n with rfl | hn
  · decide
  · obtain ⟨c, cs, hcs, hc⟩ := toDigits_cons hn
    unfold readWhole?
    rw [takeDigits_toDigits, hcs]
    split
    · rename_i heq
      cases heq
    · rename_i heq
      cases heq
      exact absurd rfl hc
    · rfl

theorem readLiteral?_toDigits (negative : Bool) (n : Nat) :
    readLiteral? negative (toDigits 10 n) = some (⟨negative, toDigits 10 n, none, none⟩, []) := by
  rw [readLiteral?_eq, readWhole?_toDigits]
  rfl

/-- **An integer of 64 bits is read from its text.** -/
theorem legible_integer {i : Int} (h : (Number.integer i).isProper = true) :
    (Number.integer i).Legible := by
  obtain ⟨hleast, hgreatest⟩ := isProper_integer.mp h
  unfold Legible
  cases i with
  | ofNat n =>
    have htext : (Number.integer (.ofNat n)).text.toList = toDigits 10 n := Nat.toList_repr
    have hfits : ofDigitChars 10 (toDigits 10 n) 0 ≤ Width.natural64 := by
      rw [Nat.ofDigitChars_ten_toDigits]
      exact Int.ofNat_le.mp hgreatest
    have hnumber : Literal.number? ⟨false, toDigits 10 n, none, none⟩ = some (.integer n) := by
      unfold Literal.number?
      dsimp only
      rw [collectWhole_eq hfits, Nat.ofDigitChars_ten_toDigits]
      rfl
    rw [htext, readValue?_literal (readLiteral?_toDigits false n), Literal.document, hnumber]
    rfl
  | negSucc n =>
    have htext : (Number.integer (.negSucc n)).text.toList = '-' :: toDigits 10 (n + 1) := by
      change ("-" ++ (n + 1).repr).toList = _
      rw [String.toList_append, Nat.toList_repr]
      rfl
    have hfits : ofDigitChars 10 (toDigits 10 (n + 1)) 0 ≤ Width.natural64 := by
      rw [Nat.ofDigitChars_ten_toDigits]
      rw [Width.least64] at hleast
      rw [Width.natural64]
      omega
    have hnumber : Literal.number? ⟨true, toDigits 10 (n + 1), none, none⟩ =
        some (.integer (.negSucc n)) := by
      unfold Literal.number?
      dsimp only
      rw [collectWhole_eq hfits, Nat.ofDigitChars_ten_toDigits]
      dsimp only
      rw [if_neg (by simp), if_pos ⟨rfl, Nat.succ_ne_zero n, hleast⟩]
      rfl
    rw [htext, readValue?_minus, readLiteral?_toDigits, Option.map_some]
    dsimp only
    rw [Literal.document, hnumber]

/-- The text of a number is read where it ends. -/
theorem Legible.readValue? {n : Number} (h : n.Legible) (hrest : Ends rest) (fuel depth : Nat) :
    readValue? (fuel + 1) depth (n.text.toList ++ rest) = some (.number n, rest) := by
  obtain ⟨l, hnumber, hl | ⟨cs, htext, hl⟩⟩ := literal_of_readValue? h
  · rw [readValue?_literal (readLiteral?_append hrest hl), Literal.document, hnumber]
    rfl
  · rw [htext, List.cons_append, readValue?_minus, readLiteral?_append hrest hl, Option.map_some]
    dsimp only
    rw [Literal.document, hnumber]
    rfl

end Number

end Workgraph.Json
