import Workgraph.Proofs.Quotation
import Workgraph.Proofs.Scanning

/-!
# How a script falls into tokens

The lexer goes through a text from left to right. This file says what its result depends on.

* Words are read in rounds (`letter`), each of which takes a character away, so that the fuel does
  not matter here either (`word?`).
* No token goes on over a line feed: what is read of a text is read of it also where a line feed
  and more follow (`next?_line`).
* `cues?` are the tokens of a text, each with whether a line ended before it, which is all that a
  parser goes by but for the texts of functions. `cues?_eq` reads them one by one, and `cues?_line`
  puts those of a text together from those of its lines.
-/

namespace Workgraph.Script

/-! ## 1. Tokens -/

namespace Token

variable {cs rest : List Char}

theorem lineBound_readNumber? : LineBound readNumber? := by
  constructor
  intro cs t r h
  unfold readNumber? at h
  split at h
  · next x rest hread =>
    split_ifs at h with hnext
    cases h
    obtain ⟨hshorter, hline⟩ := Numeral.lineBound_readLiteral?.reads hread
    refine ⟨hshorter, fun more => ?_⟩
    unfold readNumber?
    rw [hline]
    dsimp only
    rw [if_neg]
    cases r with
    | nil => exact Bool.false_ne_true
    | cons c r => exact hnext
  · cases h

theorem readLiteral?_shorter {close : Char} {phase : Phase} {acc u : Units}
    (h : readLiteral? close phase acc cs = some (u, rest)) : rest.length < cs.length := by
  induction cs generalizing phase acc with
  | nil => cases h
  | cons c cs ih =>
    unfold readLiteral? at h
    split at h
    · cases h
    · cases h
      exact Nat.lt_succ_self _
    · exact Nat.lt_succ_of_lt (ih h)

theorem lineBound_readBraced? (value : Nat) (found : Bool) :
    LineBound (readBraced? value found) := by
  constructor
  intro cs n r h
  induction cs generalizing value found with
  | nil => cases h
  | cons c cs ih =>
    unfold readBraced? at h
    simp only [List.cons_append]
    by_cases hc : c = '\x7d'
    · rw [if_pos hc] at h
      split_ifs at h with hfound
      cases h
      refine ⟨Nat.le_succ _, fun more => ?_⟩
      rw [readBraced?, if_pos hc, if_pos hfound]
    · rw [if_neg hc] at h
      split at h
      · next d hd =>
        obtain ⟨hshorter, hline⟩ := ih _ _ h
        refine ⟨Nat.le_succ_of_le hshorter, fun more => ?_⟩
        rw [readBraced?, if_neg hc, hd]
        exact hline more
      · cases h

/-- The number that an escape in a name gives. -/
def escapeNumber? : List Char → Option (Nat × List Char)
  | 'u' :: '\x7b' :: r => readBraced? 0 false r
  | 'u' :: a :: b :: c :: d :: r =>
    ([a, b, c, d].mapM hexDigit?).map fun ds => (Numeral.exactValue 16 ds, r)
  | _ => none

theorem readNameEscape?_eq (cs : List Char) : readNameEscape? cs =
    (escapeNumber? cs).bind fun p =>
      if p.1.isValidChar then some (Char.ofNat p.1, p.2) else none := by
  unfold readNameEscape?
  dsimp only
  split
  · rfl
  · next a b c d r hbrace =>
    have hplain : escapeNumber? ('u' :: a :: b :: c :: d :: r) =
        ([a, b, c, d].mapM hexDigit?).map fun ds => (Numeral.exactValue 16 ds, r) := by
      rw [escapeNumber?]
      exact hbrace
    rw [hplain]
    cases [a, b, c, d].mapM hexDigit? <;> rfl
  · next hbraced hplain =>
    rw [escapeNumber?]
    · rfl
    · exact hbraced
    · exact hplain

theorem lineBound_escapeNumber? : LineBound escapeNumber? := by
  constructor
  intro cs n r h
  unfold escapeNumber? at h
  split at h
  · obtain ⟨hshorter, hline⟩ := (lineBound_readBraced? 0 false).reads h
    exact ⟨hshorter.trans (by simp; omega), hline⟩
  · next a b c d r' hbrace =>
    obtain ⟨ds, hds, heq⟩ := Option.map_eq_some_iff.mp h
    cases heq
    refine ⟨by simp; omega, fun more => ?_⟩
    simp only [List.cons_append]
    rw [escapeNumber?, hds]
    · rfl
    · exact hbrace
  · cases h

theorem lineBound_readNameEscape? : LineBound readNameEscape? := by
  have hbound := lineBound_escapeNumber?.bind fun n =>
    (LineBound.pure (Char.ofNat n)).guard n.isValidChar
  constructor
  intro cs c r h
  rw [readNameEscape?_eq] at h
  obtain ⟨hshorter, hline⟩ := hbound.reads h
  refine ⟨hshorter, fun more => ?_⟩
  rw [readNameEscape?_eq]
  exact hline more

/-- Whether a word can begin with a character, or go on with it behind those in `acc`. -/
def fits (acc : List Char) (c : Char) : Bool :=
  if acc.isEmpty then startsWord c else continuesWord c

theorem fits_line (acc : List Char) : fits acc '\n' = false := by
  unfold fits
  split_ifs <;> decide

/-- One character of a word, perhaps escaped. -/
def letter (acc : List Char) (escaped : Bool) : List Char → Progress (Char × Bool)
  | '\\' :: r =>
    match readNameEscape? r with
    | some (c, r) => if fits acc c then .goes (c, true) r else .fails
    | none => .fails
  | c :: r => if fits acc c then .goes (c, escaped) r else .stops
  | [] => .stops

theorem readWord?_succ (fuel : Nat) (acc : List Char) (escaped : Bool) (cs : List Char) :
    readWord? (fuel + 1) acc escaped cs =
      match letter acc escaped cs with
      | .stops => some (.word (String.ofList acc.reverse) escaped, cs)
      | .fails => none
      | .goes (c, e) r => readWord? fuel (c :: acc) e r := by
  fun_cases letter acc escaped cs with
  | case1 | case2 | case3 | case4 | case5 => simp_all [readWord?, fits]
  | case6 => rfl

theorem letter_shorter {acc : List Char} {escaped : Bool} {p : Char × Bool}
    (h : letter acc escaped cs = .goes p rest) : rest.length < cs.length := by
  unfold letter at h
  split at h
  · split at h
    · next hread =>
      split_ifs at h
      cases h
      exact Nat.lt_succ_of_le (lineBound_readNameEscape?.reads hread).1
    · cases h
  · split_ifs at h
    cases h
    exact Nat.lt_succ_self _
  · cases h

theorem letter_line {acc : List Char} {escaped : Bool} {p : Char × Bool}
    (h : letter acc escaped cs = .goes p rest) (more : List Char) :
    letter acc escaped (cs ++ '\n' :: more) = .goes p (rest ++ '\n' :: more) := by
  unfold letter at h
  split at h
  · split at h
    · next hread =>
      split_ifs at h with hfits
      cases h
      rw [List.cons_append, letter, (lineBound_readNameEscape?.reads hread).2]
      exact if_pos hfits
    · cases h
  · next hplain =>
    split_ifs at h with hfits
    cases h
    rw [List.cons_append, letter]
    · exact if_pos hfits
    · exact hplain
  · cases h

theorem letter_stops_line {acc : List Char} {escaped : Bool}
    (h : letter acc escaped cs = .stops) (more : List Char) :
    letter acc escaped (cs ++ '\n' :: more) = .stops := by
  unfold letter at h
  split at h
  · split at h
    · split_ifs at h
    · cases h
  · next hplain =>
    split_ifs at h with hfits
    rw [List.cons_append, letter]
    · exact if_neg hfits
    · exact hplain
  · rw [List.nil_append, letter, fits_line]
    · rfl
    · decide

theorem readWord?_fuel {fuel fuel' : Nat} (acc : List Char) (escaped : Bool)
    (h : cs.length < fuel) (h' : cs.length < fuel') :
    readWord? fuel acc escaped cs = readWord? fuel' acc escaped cs := by
  induction fuel generalizing fuel' acc escaped cs with
  | zero => cases h
  | succ fuel ih =>
    obtain ⟨fuel', rfl⟩ := Nat.exists_eq_add_one_of_ne_zero (Nat.ne_zero_of_lt h')
    rw [readWord?_succ, readWord?_succ]
    split
    · rfl
    · rfl
    · rename_i c e r hletter
      have hshorter := letter_shorter hletter
      exact ih (c :: acc) e (by omega) (by omega)

/-- The word at the beginning of a text, behind the characters in `acc`. -/
def word? (acc : List Char) (escaped : Bool) (cs : List Char) : Option (Token × List Char) :=
  readWord? (cs.length + 1) acc escaped cs

theorem word?_eq (acc : List Char) (escaped : Bool) (cs : List Char) : word? acc escaped cs =
    match letter acc escaped cs with
    | .stops => some (.word (String.ofList acc.reverse) escaped, cs)
    | .fails => none
    | .goes (c, e) r => word? (c :: acc) e r := by
  unfold word?
  rw [readWord?_succ]
  split
  · rfl
  · rfl
  · rename_i c e r hletter
    exact readWord?_fuel (c :: acc) e (letter_shorter hletter) (Nat.lt_succ_self _)

theorem lineBound_word? (acc : List Char) (escaped : Bool) : LineBound (word? acc escaped) := by
  constructor
  intro cs t r h
  induction hn : cs.length using Nat.strong_induction_on generalizing acc escaped cs with
  | _ n ih =>
    rw [word?_eq] at h
    split at h
    · next hletter =>
      cases h
      refine ⟨hn.le, fun more => ?_⟩
      rw [word?_eq, letter_stops_line hletter]
    · cases h
    · next hletter =>
      have hlt := letter_shorter hletter
      obtain ⟨hshorter, hline⟩ := ih _ (hn ▸ hlt) _ _ h rfl
      refine ⟨by omega, fun more => ?_⟩
      rw [word?_eq, letter_line hletter]
      exact hline more

theorem isPrefixOf_line {m : List Char} (h : '\n' ∉ m) (cs more : List Char) :
    m.isPrefixOf (cs ++ '\n' :: more) = m.isPrefixOf cs := by
  induction m generalizing cs with
  | nil => rfl
  | cons a m ih =>
    obtain ⟨ha, hm⟩ : '\n' ≠ a ∧ '\n' ∉ m := by simpa using h
    cases cs with
    | nil =>
      have hne : (a == '\n') = false := beq_eq_false_iff_ne.mpr fun heq => ha heq.symm
      show (a == '\n' && m.isPrefixOf more) = false
      rw [hne]
      rfl
    | cons c cs =>
      rw [List.cons_append, List.isPrefixOf, List.isPrefixOf, ih hm]

theorem longest_line {t : Token} (h : readMark?.longest cs = some (t, rest)) :
    rest.length < cs.length ∧ ∀ more,
      readMark?.longest (cs ++ '\n' :: more) = some (t, rest ++ '\n' :: more) := by
  have htable : ∀ m ∈ markTable, m.1 ≠ [] ∧ '\n' ∉ m.1 := by decide
  unfold readMark?.longest at h ⊢
  obtain ⟨m, hm, heq⟩ := Option.map_eq_some_iff.mp h
  cases heq
  obtain ⟨hbegins, ms, ms', hms, hothers⟩ := List.find?_eq_some_iff_append.mp hm
  obtain ⟨hne, hline⟩ := htable m (List.mem_of_find?_eq_some hm)
  have hlength := (List.isPrefixOf_iff_prefix.mp hbegins).length_le
  have hpos : 0 < m.1.length := List.length_pos_iff.mpr hne
  refine ⟨by rw [List.length_drop]; omega, fun more => ?_⟩
  have hfound : markTable.find? (fun m => m.1.isPrefixOf (cs ++ '\n' :: more)) = some m := by
    refine List.find?_eq_some_iff_append.mpr ⟨?_, ms, ms', hms, fun m' hm' => ?_⟩
    · rw [isPrefixOf_line hline, hbegins]
    · have hmem : m' ∈ markTable := hms ▸ List.mem_append_left _ hm'
      rw [isPrefixOf_line (htable m' hmem).2]
      exact hothers m' hm'
  rw [hfound, Option.map_some, List.drop_append_of_le_length hlength]

theorem readMark?_line {t : Token} (h : readMark? cs = some (t, rest)) :
    rest.length < cs.length ∧ ∀ more,
      readMark? (cs ++ '\n' :: more) = some (t, rest ++ '\n' :: more) := by
  unfold readMark? at h
  split at h
  · next c r =>
    split_ifs at h with hdigit
    · cases h
      refine ⟨Nat.lt_succ_self _, fun more => ?_⟩
      simp only [List.cons_append]
      rw [readMark?, if_pos hdigit]
    · obtain ⟨hshorter, hline⟩ := longest_line h
      refine ⟨hshorter, fun more => ?_⟩
      simp only [List.cons_append]
      rw [readMark?, if_neg hdigit]
      exact hline more
  · next hother =>
    obtain ⟨hshorter, hline⟩ := longest_line h
    refine ⟨hshorter, fun more => ?_⟩
    unfold readMark?
    split
    · next c r heq =>
      -- the character behind the point is the line feed, or the text had all three
      rw [if_neg]
      · exact hline more
      · rcases cs with _ | ⟨a, _ | ⟨b, _ | ⟨c', cs⟩⟩⟩
        · cases heq
        · cases heq
        · cases heq
          decide
        · cases heq
          exact absurd rfl (hother _ _)
    · exact hline more

/-! ## 2. Texts -/

/-- The token at the beginning of a text. -/
def next? (cs : List Char) : Option (Token × List Char) := read? (cs.length + 1) cs

theorem read?_fuel {fuel : Nat} (h : cs.length < fuel) : read? fuel cs = next? cs := by
  unfold next? read?
  cases cs with
  | nil => rfl
  | cons c r =>
    dsimp only
    rw [readWord?_fuel [] false h (Nat.lt_succ_self _)]

theorem next?_cons (c : Char) (r : List Char) : next? (c :: r) =
    if startsWord c || c = '\\' then word? [] false (c :: r)
    else if c.isDigit then readNumber? (c :: r)
    else if c = '.' ∧ r.head?.any Char.isDigit then readNumber? (c :: r)
    else if c = '\'' ∨ c = '"' then
      (readLiteral? c .plain #[] r).map fun p => (.text p.1, p.2)
    else readMark? (c :: r) := rfl

/-- A word takes away the character that it begins with. -/
theorem word?_shorter {t : Token} {c : Char} {r : List Char}
    (hc : startsWord c = true ∨ c = '\\') (h : word? [] false (c :: r) = some (t, rest)) :
    rest.length ≤ r.length := by
  rw [word?_eq] at h
  split at h
  · next hletter =>
    unfold letter at hletter
    split at hletter
    · split at hletter
      · split_ifs at hletter
      · cases hletter
    · next hplain heq =>
      cases heq
      split_ifs at hletter with hfits
      exact hc.elim (fun hstarts => absurd hstarts hfits) fun heq => absurd heq hplain
    · next heq => cases heq
  · cases h
  · next hletter =>
    have hlt := letter_shorter hletter
    have hle := ((lineBound_word? _ _).reads h).1
    rw [List.length_cons] at hlt
    omega

theorem readNumber?_shorter {t : Token} {c : Char} {r : List Char}
    (hc : c.isDigit = true ∨ c = '.') (h : readNumber? (c :: r) = some (t, rest)) :
    rest.length ≤ r.length := by
  have hdigit : (Numeral.digit? 10 c).isSome = true ∨ c = '.' := by
    refine hc.imp_left fun hc => ?_
    have hbounds : 48 ≤ c.toNat ∧ c.toNat ≤ 57 := Char.isDigit_iff_toNat.mp hc
    have hrange : '0' ≤ c ∧ c ≤ '9' := hbounds
    have hvalue : c.toNat - '0'.toNat < 10 := by
      have hzero : '0'.toNat = 48 := rfl
      omega
    unfold Numeral.digit?
    rw [if_pos hrange]
    dsimp only
    rw [if_pos hvalue]
    rfl
  unfold readNumber? at h
  split at h
  · next hread =>
    split_ifs at h
    cases h
    exact Numeral.readLiteral?_shorter hdigit hread
  · cases h

theorem any_head?_line {p : Char → Bool} (hp : p '\n' = false) (r more : List Char) :
    (r ++ '\n' :: more).head?.any p = r.head?.any p := by
  cases r with
  | nil => exact hp
  | cons c r => rfl

/-- **What is read as a token** is not read otherwise where a line feed and more follow, and takes
something away. -/
theorem next?_line {t : Token} (h : next? cs = some (t, rest)) :
    rest.length < cs.length ∧ ∀ more,
      next? (cs ++ '\n' :: more) = some (t, rest ++ '\n' :: more) := by
  cases cs with
  | nil => cases h
  | cons c r =>
    rw [next?_cons] at h
    simp only [List.cons_append, next?_cons, any_head?_line (p := Char.isDigit) rfl]
    by_cases hword : (startsWord c || c = '\\') = true
    · simp only [if_pos hword] at h ⊢
      rw [Bool.or_eq_true, decide_eq_true_eq] at hword
      exact ⟨Nat.lt_succ_of_le (word?_shorter hword h), ((lineBound_word? [] false).reads h).2⟩
    simp only [if_neg hword] at h ⊢
    by_cases hdigit : c.isDigit = true
    · simp only [if_pos hdigit] at h ⊢
      exact ⟨Nat.lt_succ_of_le (readNumber?_shorter (.inl hdigit) h),
        (lineBound_readNumber?.reads h).2⟩
    simp only [if_neg hdigit] at h ⊢
    by_cases hpoint : c = '.' ∧ r.head?.any Char.isDigit = true
    · simp only [if_pos hpoint] at h ⊢
      exact ⟨Nat.lt_succ_of_le (readNumber?_shorter (.inr hpoint.1) h),
        (lineBound_readNumber?.reads h).2⟩
    simp only [if_neg hpoint] at h ⊢
    by_cases hquote : c = '\'' ∨ c = '"'
    · simp only [if_pos hquote] at h ⊢
      obtain ⟨⟨u, rest'⟩, hread, heq⟩ := Option.map_eq_some_iff.mp h
      cases heq
      refine ⟨Nat.lt_succ_of_lt (readLiteral?_shorter hread), fun more => ?_⟩
      rw [readLiteral?_append hread]
      rfl
    · simp only [if_neg hquote] at h ⊢
      exact readMark?_line h

end Token

/-- A token, and whether a line ended before it. -/
def Lexeme.cue (l : Lexeme) : Token × Bool := (l.token, l.afterLine)

/-- The tokens of a text as a parser goes by them. -/
def cues? (cs : List Char) : Option (List (Token × Bool)) :=
  (Lexeme.read? (cs.length + 1) [] cs).map (·.map Lexeme.cue)

namespace Lexeme

variable {cs : List Char}

theorem read?_succ {fuel : Nat} (h : cs.length ≤ fuel) (acc : List Lexeme) :
    read? (fuel + 1) acc cs =
      match Token.skip? false cs with
      | none => none
      | some (_, []) => some acc.reverse
      | some (afterLine, before) =>
        match Token.next? before with
        | some (token, after) => read? fuel ({ token, afterLine, before, after } :: acc) after
        | none => none := by
  have hskip : Token.skipBlanks? (fuel + 1) false cs = Token.skip? false cs :=
    Token.skipBlanks?_fuel false (Nat.lt_succ_of_le h) (Nat.lt_succ_self _)
  rw [read?, hskip]
  cases hfound : Token.skip? false cs with
  | none => rfl
  | some found =>
    obtain ⟨line, before⟩ := found
    have hshorter := Token.skip?_shorter hfound
    cases before with
    | nil => rfl
    | cons c r =>
      have hread : Token.read? (fuel + 1) (c :: r) = Token.next? (c :: r) :=
        Token.read?_fuel (Nat.lt_succ_of_le (hshorter.trans h))
      dsimp only
      exact hread ▸ rfl

theorem read?_fuel {fuel fuel' : Nat} (h : cs.length < fuel) (h' : cs.length < fuel')
    (acc : List Lexeme) : read? fuel acc cs = read? fuel' acc cs := by
  induction fuel generalizing fuel' acc cs with
  | zero => cases h
  | succ fuel ih =>
    obtain ⟨fuel', rfl⟩ := Nat.exists_eq_add_one_of_ne_zero (Nat.ne_zero_of_lt h')
    rw [read?_succ (Nat.le_of_lt_succ h), read?_succ (Nat.le_of_lt_succ h')]
    split
    · rfl
    · rfl
    · next hskip =>
      split
      · next hnext =>
        have hshorter := Token.skip?_shorter hskip
        have hlt := (Token.next?_line hnext).1
        exact ih (by omega) (by omega) _
      · rfl

theorem read?_acc (fuel : Nat) (acc : List Lexeme) (cs : List Char) :
    read? fuel acc cs = (read? fuel [] cs).map (acc.reverse ++ ·) := by
  induction fuel generalizing acc cs with
  | zero => rfl
  | succ fuel ih =>
    rw [read?, read?]
    split
    · rfl
    · exact congrArg some (List.append_nil _).symm
    · split
      · rw [ih, ih [_], Option.map_map]
        congr 1
        funext ls
        simp
      · rfl

end Lexeme

/-- **Tokens are read one by one.** -/
theorem cues?_eq (cs : List Char) : cues? cs =
    match Token.skip? false cs with
    | none => none
    | some (_, []) => some []
    | some (line, before) =>
      (Token.next? before).bind fun p => (cues? p.2).map ((p.1, line) :: ·) := by
  unfold cues?
  rw [Lexeme.read?_succ (Nat.le_refl _)]
  split
  · rfl
  · rfl
  · next line before hne hskip =>
    cases hnext : Token.next? before with
    | none => rfl
    | some p =>
      obtain ⟨token, after⟩ := p
      have hshorter := Token.skip?_shorter hskip
      have hlt := (Token.next?_line hnext).1
      have hfuel : Lexeme.read? cs.length [] after = Lexeme.read? (after.length + 1) [] after :=
        Lexeme.read?_fuel (by omega) (by omega) []
      dsimp only
      rw [Lexeme.read?_acc, hfuel, Option.map_map, Option.bind_some, Option.map_map]
      rfl

theorem cues?_cons {cs before after : List Char} {line : Bool} {t : Token}
    (hskip : Token.skip? false cs = some (line, before))
    (hnext : Token.next? before = some (t, after)) :
    cues? cs = (cues? after).map ((t, line) :: ·) := by
  rw [cues?_eq, hskip]
  cases before with
  | nil => cases hnext
  | cons c r =>
    dsimp only
    rw [hnext]
    rfl

/-- **The tokens of a text** that a line feed ends are those of the text alone, and then those of
what begins with the line feed. -/
theorem cues?_line {cs : List Char} {ts : List (Token × Bool)} (h : cues? cs = some ts)
    (more : List Char) : cues? (cs ++ '\n' :: more) = (cues? ('\n' :: more)).map (ts ++ ·) := by
  induction hn : cs.length using Nat.strong_induction_on generalizing cs ts with
  | _ n ih =>
    rw [cues?_eq] at h
    split at h
    · cases h
    · next hskip =>
      cases h
      have hblank : Token.skip? false (cs ++ '\n' :: more) = Token.skip? false ('\n' :: more) :=
        (Token.skip?_line hskip more).trans (Token.skip?_eq false ('\n' :: more)).symm
      rw [cues?_eq, cues?_eq ('\n' :: more), hblank]
      simp
    · next line before hne hskip =>
      obtain ⟨⟨t, after⟩, hnext, hrest⟩ := Option.bind_eq_some_iff.mp h
      obtain ⟨ts', hts', heq⟩ := Option.map_eq_some_iff.mp hrest
      cases heq
      have hshorter := Token.skip?_shorter hskip
      obtain ⟨hlt, hline⟩ := Token.next?_line hnext
      have hafter : after.length < n := by omega
      have hskip' := (Token.skip?_line hskip more).trans (if_neg hne)
      rw [cues?_cons hskip' (hline more), ih _ hafter hts' rfl, Option.map_map]
      rfl

end Workgraph.Script
