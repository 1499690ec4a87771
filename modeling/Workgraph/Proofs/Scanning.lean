import Mathlib.Data.List.TakeWhile
import Workgraph.Script.Token

/-!
# Blanks and numbers of a script

What stands between the tokens of a script, and the numbers among them. Neither goes on over a line
feed, as far as the result is concerned.

* `Progress` is what one round of a loop over a text comes to; blanks are skipped in such rounds
  (`gap`), each of which takes something away. So the fuel of the loop does not matter once it
  exceeds the length of the text (`skip?`).
* A line feed and more behind a text only add to what is skipped after it (`skip?_line`).
* A reader is `LineBound` when it takes no characters beyond the line feed, nor needs to see them;
  readers put together of such ones are such (`LineBound.bind`), and so numbers are read
  (`lineBound_readLiteral?`).
-/

namespace Workgraph.Script

/-- What a round of a loop over a text comes to. -/
inductive Progress (α : Type) where
  | stops
  | fails
  | goes (state : α) (rest : List Char)

namespace Token

variable {cs rest : List Char}

/-! ## 1. Blanks -/

theorem skipBlock?_shorter {line l : Bool} (h : skipBlock? line cs = some (l, rest)) :
    rest.length < cs.length := by
  fun_induction skipBlock? line cs with
  | case1 line cs =>
    cases h
    simp only [List.length_cons]
    omega
  | case2 line c cs hend ih => exact Nat.lt_succ_of_lt (ih h)
  | case3 => cases h

theorem skipBlock?_append {line l : Bool} (h : skipBlock? line cs = some (l, rest))
    (more : List Char) : skipBlock? line (cs ++ more) = some (l, rest ++ more) := by
  fun_induction skipBlock? line cs with
  | case1 line cs =>
    cases h
    rfl
  | case2 line c cs hend ih =>
    have hcs : cs ≠ [] := by
      rintro rfl
      cases h
    obtain ⟨c', cs', rfl⟩ := List.exists_cons_of_ne_nil hcs
    rw [List.cons_append, List.cons_append, skipBlock?]
    · exact ih h
    · rintro _ ⟨⟩ ⟨⟩
      exact hend _ rfl rfl
  | case3 => cases h

/-- One blank, line end or comment at the beginning of a text. -/
def gap (line : Bool) : List Char → Progress Bool
  | '/' :: '/' :: r => .goes line (r.dropWhile fun c => !endsLine c)
  | '/' :: '*' :: r =>
    match skipBlock? line r with
    | some (line, r) => .goes line r
    | none => .fails
  | c :: r =>
    if endsLine c then .goes true r else if Units.isSpace c.toNat then .goes line r else .stops
  | [] => .stops

theorem skipBlanks?_succ (fuel : Nat) (line : Bool) (cs : List Char) :
    skipBlanks? (fuel + 1) line cs =
      match gap line cs with
      | .stops => some (line, cs)
      | .fails => none
      | .goes l r => skipBlanks? fuel l r := by
  fun_cases gap line cs with
  | case1 | case7 => rfl
  | case2 | case3 => simp_all [skipBlanks?]
  | case4 | case5 | case6 => simp_all [skipBlanks?]

theorem gap_shorter {line l : Bool} (h : gap line cs = .goes l rest) :
    rest.length < cs.length := by
  unfold gap at h
  split at h
  · next r =>
    cases h
    have hle := List.length_dropWhile_le (fun c => !endsLine c) r
    simp only [List.length_cons]
    omega
  · next r =>
    split at h
    · next hblock =>
      cases h
      have hlt := skipBlock?_shorter hblock
      simp only [List.length_cons]
      omega
    · cases h
  · split_ifs at h <;> cases h <;> exact Nat.lt_succ_self _
  · cases h

theorem skipBlanks?_fuel {fuel fuel' : Nat} (line : Bool) (h : cs.length < fuel)
    (h' : cs.length < fuel') : skipBlanks? fuel line cs = skipBlanks? fuel' line cs := by
  induction fuel generalizing fuel' line cs with
  | zero => cases h
  | succ fuel ih =>
    obtain ⟨fuel', rfl⟩ := Nat.exists_eq_add_one_of_ne_zero (Nat.ne_zero_of_lt h')
    rw [skipBlanks?_succ, skipBlanks?_succ]
    split
    · rfl
    · rfl
    · rename_i l r hgap
      have hshorter := gap_shorter hgap
      exact ih l (by omega) (by omega)

/-- The rest after blanks, line ends and comments, and whether a line ended. -/
def skip? (line : Bool) (cs : List Char) : Option (Bool × List Char) :=
  skipBlanks? (cs.length + 1) line cs

theorem skip?_eq (line : Bool) (cs : List Char) : skip? line cs =
    match gap line cs with
    | .stops => some (line, cs)
    | .fails => none
    | .goes l r => skip? l r := by
  unfold skip?
  rw [skipBlanks?_succ]
  split
  · rfl
  · rfl
  · rename_i l r hgap
    exact skipBlanks?_fuel l (gap_shorter hgap) (Nat.lt_succ_self _)

theorem skip?_shorter {line l : Bool} (h : skip? line cs = some (l, rest)) :
    rest.length ≤ cs.length := by
  induction hn : cs.length using Nat.strong_induction_on generalizing line cs with
  | _ n ih =>
    rw [skip?_eq] at h
    split at h
    · cases h
      exact hn.le
    · cases h
    · rename_i l' r hgap
      have hshorter := gap_shorter hgap
      exact (ih _ (by omega) h rfl).trans (by omega)

theorem dropWhile_line (p : Char → Bool) (hp : p '\n' = false) (cs more : List Char) :
    (cs ++ '\n' :: more).dropWhile p = cs.dropWhile p ++ '\n' :: more := by
  rw [List.dropWhile_append, List.dropWhile_cons_of_neg (by simp [hp])]
  split_ifs with hempty
  · rw [List.isEmpty_iff.mp hempty]
    rfl
  · rfl

/-- What begins no comment begins none where a line feed and more follow. -/
theorem gap_plain (line : Bool) {c : Char} {r : List Char}
    (hline : ∀ r', c = '/' → r = '/' :: r' → False) (hblock : ∀ r', c = '/' → r = '*' :: r' → False)
    (more : List Char) : gap line (c :: (r ++ '\n' :: more)) =
      if endsLine c then .goes true (r ++ '\n' :: more)
      else if Units.isSpace c.toNat then .goes line (r ++ '\n' :: more) else .stops := by
  rw [gap]
  · rintro r' rfl heq
    cases r with
    | nil => cases heq
    | cons c r =>
      cases heq
      exact hline _ rfl rfl
  · rintro r' rfl heq
    cases r with
    | nil => cases heq
    | cons c r =>
      cases heq
      exact hblock _ rfl rfl

theorem gap_goes_line {line l : Bool} (h : gap line cs = .goes l rest) (more : List Char) :
    gap line (cs ++ '\n' :: more) = .goes l (rest ++ '\n' :: more) := by
  unfold gap at h
  split at h
  · cases h
    rw [List.cons_append, List.cons_append, gap, dropWhile_line _ rfl]
  · split at h
    · next hblock =>
      cases h
      rw [List.cons_append, List.cons_append, gap, skipBlock?_append hblock]
    · cases h
  · next hline hblock =>
    rw [List.cons_append, gap_plain line hline hblock]
    split_ifs at h ⊢ <;> cases h <;> rfl
  · cases h

theorem gap_stops_line {line : Bool} (hcs : cs ≠ []) (h : gap line cs = .stops)
    (more : List Char) : gap line (cs ++ '\n' :: more) = .stops := by
  unfold gap at h
  split at h
  · cases h
  · split at h <;> cases h
  · next hline hblock =>
    rw [List.cons_append, gap_plain line hline hblock]
    split_ifs at h ⊢
    rfl
  · exact absurd rfl hcs

/-- A line feed behind a text is skipped with the blanks at its end, or stands behind the token that
the text begins with. -/
theorem skip?_line {line l : Bool} (h : skip? line cs = some (l, rest)) (more : List Char) :
    skip? line (cs ++ '\n' :: more) =
      if rest = [] then skip? true more else some (l, rest ++ '\n' :: more) := by
  induction hn : cs.length using Nat.strong_induction_on generalizing line cs with
  | _ n ih =>
    rw [skip?_eq] at h
    split at h
    · rename_i hgap
      cases h
      split_ifs with hcs
      · subst hcs
        exact skip?_eq _ ('\n' :: more)
      · rw [skip?_eq, gap_stops_line hcs hgap]
    · cases h
    · rename_i l' r hgap
      rw [skip?_eq, gap_goes_line hgap]
      exact ih _ (hn ▸ gap_shorter hgap) h rfl

/-! ## 2. Readers that stay in their line -/

end Token

/-- A reader that takes nothing from behind a line feed: what it reads of a text it reads also where
a line feed and more follow. -/
structure LineBound {α : Type} (read? : List Char → Option (α × List Char)) : Prop where
  reads : ∀ {cs x r}, read? cs = some (x, r) → r.length ≤ cs.length ∧
    ∀ more, read? (cs ++ '\n' :: more) = some (x, r ++ '\n' :: more)

namespace LineBound

variable {α β : Type}

theorem pure (a : α) : LineBound fun cs => some (a, cs) := by
  constructor
  rintro cs x r ⟨⟩
  exact ⟨Nat.le_refl _, fun _ => rfl⟩

theorem bind {read? : List Char → Option (α × List Char)}
    {next? : α → List Char → Option (β × List Char)} (h : LineBound read?)
    (h' : ∀ a, LineBound (next? a)) :
    LineBound fun cs => (read? cs).bind fun p => next? p.1 p.2 := by
  constructor
  intro cs x r hread
  obtain ⟨⟨a, r'⟩, ha, hnext⟩ := Option.bind_eq_some_iff.mp hread
  obtain ⟨hshorter, hline⟩ := h.reads ha
  obtain ⟨hshorter', hline'⟩ := (h' a).reads hnext
  refine ⟨hshorter'.trans hshorter, fun more => ?_⟩
  show (read? (cs ++ '\n' :: more)).bind _ = _
  rw [hline, Option.bind_some]
  exact hline' more

theorem guard {read? : List Char → Option (α × List Char)} (h : LineBound read?) (p : Prop)
    [Decidable p] : LineBound fun cs => if p then read? cs else none := by
  by_cases hp : p
  · simpa only [if_pos hp] using h
  · simp only [if_neg hp]
    exact ⟨nofun⟩

theorem map {read? : List Char → Option (α × List Char)} (h : LineBound read?) (f : α → β) :
    LineBound fun cs => (read? cs).map fun p => (f p.1, p.2) := by
  constructor
  intro cs x r hread
  obtain ⟨⟨a, r'⟩, ha, heq⟩ := Option.map_eq_some_iff.mp hread
  cases heq
  obtain ⟨hshorter, hline⟩ := h.reads ha
  refine ⟨hshorter, fun more => ?_⟩
  show (read? (cs ++ '\n' :: more)).map _ = _
  rw [hline]
  rfl

end LineBound

/-! ## 3. Numbers -/

namespace Numeral

theorem digit?_line (base : Nat) : digit? base '\n' = none := by
  unfold digit?
  exact if_neg (Nat.lt_irrefl base)

theorem lineBound_literalDigits? (base : Nat) (separated after : Bool) (acc : List Nat) :
    LineBound (literalDigits? base separated after acc) := by
  constructor
  intro cs ds r h
  induction cs generalizing after acc with
  | nil =>
    rw [literalDigits?] at h
    split_ifs at h with hafter
    cases h
    refine ⟨Nat.le_refl _, fun more => ?_⟩
    rw [List.nil_append, literalDigits?, if_neg (by decide), digit?_line]
    exact if_neg hafter
  | cons c cs ih =>
    rw [literalDigits?] at h
    simp only [List.cons_append]
    by_cases hc : c = '_'
    · rw [if_pos hc] at h
      split_ifs at h with hplace
      obtain ⟨hshorter, hline⟩ := ih true acc h
      refine ⟨Nat.le_succ_of_le hshorter, fun more => ?_⟩
      rw [literalDigits?, if_pos hc, if_pos hplace, hline]
    · rw [if_neg hc] at h
      cases hd : digit? base c with
      | some d =>
        rw [hd] at h
        obtain ⟨hshorter, hline⟩ := ih false (d :: acc) h
        refine ⟨Nat.le_succ_of_le hshorter, fun more => ?_⟩
        rw [literalDigits?, if_neg hc, hd]
        exact hline more
      | none =>
        rw [hd] at h
        dsimp only at h
        split_ifs at h with hafter
        cases h
        refine ⟨Nat.le_refl _, fun more => ?_⟩
        rw [literalDigits?, if_neg hc, hd]
        exact if_neg hafter

theorem literalFraction?_of_ne {c : Char} (h : c ≠ '.') (cs : List Char) :
    literalFraction? (c :: cs) = some ([], c :: cs) := by
  rw [literalFraction?]
  · rintro _ ⟨⟩
    exact h rfl
  · rintro _ ⟨⟩
    exact h rfl

theorem lineBound_literalFraction? : LineBound literalFraction? := by
  constructor
  intro cs ds r h
  cases cs with
  | nil =>
    cases h
    exact ⟨Nat.le_refl _, fun more => literalFraction?_of_ne (by decide) more⟩
  | cons c cs =>
    by_cases hc : c = '.'
    · subst hc
      unfold literalFraction? at h
      split at h
      · cases h
      · next hplain heq =>
        cases heq
        obtain ⟨hshorter, hline⟩ := (lineBound_literalDigits? 10 true false []).reads h
        refine ⟨Nat.le_succ_of_le hshorter, fun more => ?_⟩
        rw [List.cons_append, literalFraction?]
        · exact hline more
        · intro r' heq
          cases cs with
          | nil => cases heq
          | cons c cs =>
            cases heq
            exact hplain _ rfl
      · next hpoint => exact absurd rfl (hpoint _)
    · rw [literalFraction?_of_ne hc] at h
      cases h
      exact ⟨Nat.le_refl _, fun more => literalFraction?_of_ne hc _⟩

/-- The sign of an exponent, and what follows it. -/
def literalSign : List Char → Bool × List Char
  | '-' :: cs => (true, cs)
  | '+' :: cs => (false, cs)
  | cs => (false, cs)

/-- The digits of an exponent behind its letter. -/
def signedExponent? (cs : List Char) : Option (Int × List Char) :=
  if beginsWithDigit 10 (literalSign cs).2 then
    (literalDigits? 10 true false [] (literalSign cs).2).map fun digits =>
      let e : Int := exactValue 10 digits.1
      (if (literalSign cs).1 then -e else e, digits.2)
  else none

theorem literalExponent?_eq (cs : List Char) : literalExponent? cs =
    match cs with
    | 'e' :: cs | 'E' :: cs => signedExponent? cs
    | cs => some (0, cs) := rfl

theorem literalSign_shorter (cs : List Char) : (literalSign cs).2.length ≤ cs.length := by
  unfold literalSign
  split
  · exact Nat.le_succ _
  · exact Nat.le_succ _
  · exact Nat.le_refl _

theorem literalSign_append {cs : List Char} (h : cs ≠ []) (more : List Char) :
    literalSign (cs ++ more) = ((literalSign cs).1, (literalSign cs).2 ++ more) := by
  obtain ⟨c, cs, rfl⟩ := List.exists_cons_of_ne_nil h
  rw [List.cons_append, literalSign.eq_def, literalSign.eq_def]
  by_cases hminus : c = '-'
  · subst hminus
    rfl
  · by_cases hplus : c = '+'
    · subst hplus
      rfl
    · simp [hminus, hplus]

theorem beginsWithDigit_append {base : Nat} {cs : List Char} (h : beginsWithDigit base cs = true)
    (more : List Char) : beginsWithDigit base (cs ++ more) = true := by
  cases cs with
  | nil => cases h
  | cons c cs => exact h

theorem lineBound_signedExponent? : LineBound signedExponent? := by
  constructor
  intro cs e r h
  unfold signedExponent? at h
  have hdigit : beginsWithDigit 10 (literalSign cs).2 = true := by
    by_contra hnone
    rw [if_neg hnone] at h
    cases h
  have hcs : cs ≠ [] := by
    rintro rfl
    cases hdigit
  rw [if_pos hdigit] at h
  obtain ⟨hshorter, hline⟩ := ((lineBound_literalDigits? 10 true false []).map fun ds =>
    let e : Int := exactValue 10 ds
    if (literalSign cs).1 then -e else e).reads h
  refine ⟨hshorter.trans (literalSign_shorter cs), fun more => ?_⟩
  unfold signedExponent?
  rw [literalSign_append hcs, if_pos (beginsWithDigit_append hdigit _)]
  exact hline more

theorem literalExponent?_of_ne {c : Char} (h : c ≠ 'e') (h' : c ≠ 'E') (cs : List Char) :
    literalExponent? (c :: cs) = some (0, c :: cs) := by
  rw [literalExponent?_eq]
  split
  · next heq => exact absurd (List.cons.inj heq).1 h
  · next heq => exact absurd (List.cons.inj heq).1 h'
  · rfl

theorem lineBound_literalExponent? : LineBound literalExponent? := by
  constructor
  intro cs e r h
  cases cs with
  | nil =>
    cases h
    exact ⟨Nat.le_refl _, fun more => literalExponent?_of_ne (by decide) (by decide) more⟩
  | cons c cs =>
    by_cases hc : c = 'e' ∨ c = 'E'
    · have hread (cs : List Char) : literalExponent? (c :: cs) = signedExponent? cs := by
        rcases hc with rfl | rfl <;> rfl
      rw [hread] at h
      obtain ⟨hshorter, hline⟩ := lineBound_signedExponent?.reads h
      refine ⟨Nat.le_succ_of_le hshorter, fun more => ?_⟩
      rw [List.cons_append, hread]
      exact hline more
    · obtain ⟨he, hE⟩ := not_or.mp hc
      rw [literalExponent?_of_ne he hE] at h
      cases h
      exact ⟨Nat.le_refl _, fun more => literalExponent?_of_ne he hE _⟩

/-- What a decimal literal is behind the digits before its point. -/
def literalTail? (whole : List Nat) (cs : List Char) : Option (Float × List Char) :=
  (literalFraction? cs).bind fun fraction => (literalExponent? fraction.2).map fun exponent =>
    (scaled (exactValue 10 (whole ++ fraction.1)) (exponent.1 - fraction.1.length), exponent.2)

theorem decimalLiteral?_eq (separated : Bool) (cs : List Char) : decimalLiteral? separated cs =
    (literalDigits? 10 separated false [] cs).bind fun whole => literalTail? whole.1 whole.2 := by
  unfold decimalLiteral? literalTail?
  cases literalDigits? 10 separated false [] cs with
  | none => rfl
  | some whole =>
    cases hfraction : literalFraction? whole.2 with
    | none => simp [hfraction]
    | some fraction =>
      cases hexponent : literalExponent? fraction.2 <;> simp [hfraction, hexponent]

theorem lineBound_literalTail? (whole : List Nat) : LineBound (literalTail? whole) :=
  lineBound_literalFraction?.bind fun places =>
    lineBound_literalExponent?.map fun e =>
      scaled (exactValue 10 (whole ++ places)) (e - places.length)

theorem lineBound_decimalLiteral? (separated : Bool) : LineBound (decimalLiteral? separated) := by
  have hbound := (lineBound_literalDigits? 10 separated false []).bind lineBound_literalTail?
  constructor
  intro cs x r h
  rw [decimalLiteral?_eq] at h
  obtain ⟨hshorter, hline⟩ := hbound.reads h
  refine ⟨hshorter, fun more => ?_⟩
  rw [decimalLiteral?_eq]
  exact hline more

/-- A decimal literal that begins with a digit or a point takes it away. -/
theorem decimalLiteral?_shorter {separated : Bool} {c : Char} {cs r : List Char} {x : Float}
    (hc : (digit? 10 c).isSome = true ∨ c = '.')
    (h : decimalLiteral? separated (c :: cs) = some (x, r)) : r.length ≤ cs.length := by
  rw [decimalLiteral?_eq] at h
  obtain ⟨⟨whole, rest⟩, hwhole, htail⟩ := Option.bind_eq_some_iff.mp h
  rcases hc with hdigit | rfl
  · obtain ⟨d, hd⟩ := Option.isSome_iff_exists.mp hdigit
    have hne : c ≠ '_' := by
      rintro rfl
      cases hd
    rw [literalDigits?, if_neg hne, hd] at hwhole
    exact ((lineBound_literalTail? whole).reads htail).1.trans
      ((lineBound_literalDigits? 10 separated false [d]).reads hwhole).1
  · cases hwhole
    obtain ⟨⟨places, rest'⟩, hplaces, hexponent⟩ := Option.bind_eq_some_iff.mp htail
    obtain ⟨⟨e, rest''⟩, he, heq⟩ := Option.map_eq_some_iff.mp hexponent
    cases heq
    have hfraction : rest'.length ≤ cs.length := by
      unfold literalFraction? at hplaces
      split at hplaces
      · cases hplaces
      · next heq =>
        cases heq
        exact ((lineBound_literalDigits? 10 true false []).reads hplaces).1
      · next hpoint => exact absurd rfl (hpoint cs)
    exact (lineBound_literalExponent?.reads he).1.trans hfraction

/-- What a literal is behind a leading zero and the character `c`. -/
def zeroLiteral? (c : Char) (cs : List Char) : Option (Float × List Char) :=
  match prefixBase? c with
  | some base =>
    if beginsWithDigit base cs then
      (literalDigits? base true false [] cs).map fun digits => (digitwise base digits.1, digits.2)
    else none
  | none =>
    if (digit? 8 c).isSome then
      (literalDigits? 8 false false [] (c :: cs)).map fun digits => (digitwise 8 digits.1, digits.2)
    else decimalLiteral? false ('0' :: c :: cs)

theorem readLiteral?_zero (c : Char) (cs : List Char) :
    readLiteral? ('0' :: c :: cs) = zeroLiteral? c cs := rfl

theorem zeroLiteral?_line {c : Char} {cs r : List Char} {x : Float}
    (h : zeroLiteral? c cs = some (x, r)) : r.length ≤ cs.length + 1 ∧
      ∀ more, zeroLiteral? c (cs ++ '\n' :: more) = some (x, r ++ '\n' :: more) := by
  unfold zeroLiteral? at h ⊢
  cases hbase : prefixBase? c with
  | some base =>
    rw [hbase] at h
    dsimp only at h ⊢
    split_ifs at h with hdigit
    obtain ⟨hshorter, hline⟩ := ((lineBound_literalDigits? base true false []).map _).reads h
    refine ⟨Nat.le_succ_of_le hshorter, fun more => ?_⟩
    rw [if_pos (beginsWithDigit_append hdigit _)]
    exact hline more
  | none =>
    rw [hbase] at h
    dsimp only at h ⊢
    split_ifs at h ⊢
    · exact ((lineBound_literalDigits? 8 false false []).map _).reads h
    · refine ⟨decimalLiteral?_shorter (.inl rfl) h, ?_⟩
      exact ((lineBound_decimalLiteral? false).reads h).2

theorem lineBound_readLiteral? : LineBound readLiteral? := by
  constructor
  intro cs x r h
  unfold readLiteral? at h
  split at h
  · next c cs =>
    obtain ⟨hshorter, hline⟩ := zeroLiteral?_line h
    refine ⟨Nat.le_succ_of_le hshorter, fun more => ?_⟩
    rw [List.cons_append, List.cons_append, readLiteral?_zero]
    exact hline more
  · next hzero =>
    refine ⟨((lineBound_decimalLiteral? true).reads h).1, fun more => ?_⟩
    by_cases hlone : cs = ['0']
    · -- a line feed behind a lone zero brings in the other branch, with the same result
      subst hlone
      cases h
      rfl
    · rw [readLiteral?]
      · exact ((lineBound_decimalLiteral? true).reads h).2 more
      · intro c cs' heq
        rcases cs with _ | ⟨c', _ | ⟨c'', cs⟩⟩
        · cases heq
        · cases heq
          exact hlone rfl
        · cases heq
          exact hzero _ _ rfl

/-- A literal takes away the digit or the point that it begins with. -/
theorem readLiteral?_shorter {c : Char} {cs r : List Char} {x : Float}
    (hc : (digit? 10 c).isSome = true ∨ c = '.') (h : readLiteral? (c :: cs) = some (x, r)) :
    r.length ≤ cs.length := by
  unfold readLiteral? at h
  split at h
  · next heq =>
    cases heq
    exact (zeroLiteral?_line h).1
  · exact decimalLiteral?_shorter hc h

end Numeral

end Workgraph.Script
