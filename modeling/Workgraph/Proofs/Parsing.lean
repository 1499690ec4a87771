import Workgraph.Proofs.Quotation
import Workgraph.Proofs.Transcription
import Workgraph.Script.Library

/-!
# What a script sees of a value

A script gets a value by reading its compact text. This file follows that reader.

* From the units of a text the text can be read again, character by character
  (`Units.toString?_ofString`).
* `Datum.ofJson` is what a value says to a script: texts as units, and numbers as the numbers of the
  literals that are their texts.
* **Compact text says its value** (`readDatum?_spelled`), by induction on the value; what the reader
  does after one item or member (`afterItem`, `afterMember`) goes along the rest of its list.
* So a compact text that can be read at all is made into what its value says (`read_compact`).
-/

namespace Workgraph.Script

/-! ## 1. Units -/

namespace Units

theorem isHigh_eq (u : UInt16) : isHigh u = decide (0xD800 ≤ u.toNat ∧ u.toNat < 0xDC00) := by
  unfold isHigh
  rw [Bool.decide_and]
  rfl

theorem isLow_eq (u : UInt16) : isLow u = decide (0xDC00 ≤ u.toNat ∧ u.toNat < 0xE000) := by
  unfold isLow
  rw [Bool.decide_and]
  rfl

theorem toNat_toUInt16 {n : Nat} (h : n < 0x10000) : n.toUInt16.toNat = n :=
  UInt16.toNat_ofNat_of_lt' h

/-- A number that is no surrogate stands for its character. -/
theorem single_toUInt16 {n : Nat} (h : n < 0xD800 ∨ 0xDFFF < n) (hsmall : n < 0x10000) :
    isHigh n.toUInt16 = false ∧ single n.toUInt16 = .char (Char.ofNat n) := by
  have hunit := toNat_toUInt16 hsmall
  have hhigh : isHigh n.toUInt16 = false := by
    rw [isHigh_eq, hunit, decide_eq_false_iff_not]
    omega
  have hlow : isLow n.toUInt16 = false := by
    rw [isLow_eq, hunit, decide_eq_false_iff_not]
    omega
  refine ⟨hhigh, ?_⟩
  unfold single
  rw [hhigh, hlow, hunit]
  rfl

/-- A number above them is a pair of surrogates that stands for its character. -/
theorem paired_toUInt16 {n : Nat} (h : 0x10000 ≤ n) (hgreatest : n < 0x110000) :
    isHigh (0xD800 + (n - 0x10000) / 0x400).toUInt16 = true ∧
    isLow (0xDC00 + (n - 0x10000) % 0x400).toUInt16 = true ∧
    paired (0xD800 + (n - 0x10000) / 0x400).toUInt16
      (0xDC00 + (n - 0x10000) % 0x400).toUInt16 = .char (Char.ofNat n) := by
  have hhigh := toNat_toUInt16 (show 0xD800 + (n - 0x10000) / 0x400 < 0x10000 by omega)
  have hlow := toNat_toUInt16 (show 0xDC00 + (n - 0x10000) % 0x400 < 0x10000 by omega)
  have hcode : 0x10000 + (0xD800 + (n - 0x10000) / 0x400 - 0xD800) * 0x400 +
      (0xDC00 + (n - 0x10000) % 0x400 - 0xDC00) = n := by omega
  refine ⟨?_, ?_, ?_⟩
  · rw [isHigh_eq, hhigh, decide_eq_true_eq]
    omega
  · rw [isLow_eq, hlow, decide_eq_true_eq]
    omega
  · unfold paired
    rw [hhigh, hlow, hcode]

/-- The units of a character are read as this character. -/
theorem pieces_ofChar (acc : List Piece) (c : Char) (us : List UInt16) :
    pieces acc (ofChar c ++ us) = pieces (.char c :: acc) us := by
  have hvalid : c.toNat < 0xD800 ∨ 0xDFFF < c.toNat ∧ c.toNat < 0x110000 := c.valid
  have hself : Char.ofNat c.toNat = c := Char.ofNat_toNat c
  unfold ofChar ofCode
  split_ifs with hsmall
  · obtain ⟨hhigh, hsingle⟩ := single_toUInt16 (hvalid.imp_right And.left) hsmall
    rw [hself] at hsingle
    cases us with
    | nil => exact congrArg (fun p => (p :: acc).reverse) hsingle
    | cons v us =>
      rw [List.singleton_append, pieces, hhigh, hsingle]
      rfl
  · obtain ⟨hhigh, hlow, hpaired⟩ :=
      paired_toUInt16 (not_lt.mp hsmall) (show c.toNat < 0x110000 by omega)
    rw [List.cons_append, List.singleton_append, pieces, hhigh, hlow, hpaired, hself]
    rfl

theorem decode_ofChars (cs : List Char) : (ofChars cs).decode = cs.map Piece.char := by
  have hpieces (acc : List Piece) :
      pieces acc (cs.flatMap ofChar) = acc.reverse ++ cs.map Piece.char := by
    induction cs generalizing acc with
    | nil => exact (List.append_nil _).symm
    | cons c cs ih =>
      rw [List.flatMap_cons, pieces_ofChar, ih, List.reverse_cons, List.append_assoc]
      rfl
  exact hpieces []

/-- **A text can be read from its units.** -/
theorem toString?_ofString (s : String) : (ofString s).toString? = some s := by
  have hchars (cs : List Char) : (cs.map Piece.char).mapM Piece.char? = some cs := by
    induction cs with
    | nil => rfl
    | cons c cs ih =>
      rw [List.map_cons, List.mapM_cons, ih]
      rfl
  unfold toString? ofString
  rw [decode_ofChars, hchars, Option.map_some, String.ofList_toList]

theorem chars_ofString (s : String) : (ofString s).chars = s.toList := by
  unfold chars ofString
  rw [decode_ofChars, List.map_map]
  exact List.map_id _

end Units

namespace JsonText

open Json (escaped escaped_cases escapedText hex4? shortEscape?)

variable {rest : List Char}

/-! ## 2. Strings -/

theorem readUnits?_plain {c : Char} (hquote : c ≠ '"') (hbackslash : c ≠ '\\')
    (hcontrol : 32 ≤ c.toNat) (acc : Units) (rest : List Char) :
    readUnits? acc (c :: rest) = readUnits? (acc ++ Units.ofChar c) rest := by
  rw [readUnits?.eq_def]
  split
  case h_1 heq => exact absurd (List.cons.inj heq).1 hquote
  case h_4 heq =>
    cases heq
    exact if_neg (not_lt.mpr hcontrol)
  case h_5 heq => cases heq
  all_goals
    rename_i heq
    exact absurd (List.cons.inj heq).1 hbackslash

theorem readUnits?_short {c e : Char} (he : e ≠ 'u') (hshort : shortEscape? e = some c)
    (acc : Units) (rest : List Char) :
    readUnits? acc ('\\' :: e :: rest) = readUnits? (acc ++ Units.ofChar c) rest := by
  rw [readUnits?.eq_def]
  split
  case h_1 heq => cases heq
  case h_2 heq =>
    cases heq
    exact absurd rfl he
  case h_3 heq =>
    cases heq
    rw [hshort]
  case h_4 hother heq =>
    cases heq
    exact absurd rfl (hother _ _ rfl)
  case h_5 heq => cases heq

theorem readUnits?_hex {a b c : Char} (hhex : hex4? '0' '0' a b = some c.toNat)
    (hcontrol : c.toNat < 32) (acc : Units) (rest : List Char) :
    readUnits? acc ('\\' :: 'u' :: '0' :: '0' :: a :: b :: rest) =
      readUnits? (acc ++ Units.ofChar c) rest := by
  have hunits : acc.push c.toNat.toUInt16 = acc ++ Units.ofChar c := by
    have hone : Units.ofChar c = [c.toNat.toUInt16] := if_pos (by omega)
    rw [hone]
    apply Array.ext'
    simp
  rw [readUnits?, hhex]
  dsimp only
  rw [hunits]

/-- A character that was written adds its units. -/
theorem readUnits?_escaped (acc : Units) (c : Char) (rest : List Char) :
    readUnits? acc (escaped c ++ rest) = readUnits? (acc ++ Units.ofChar c) rest := by
  rcases escaped_cases c with ⟨h, hquote, hbackslash, hcontrol⟩ | ⟨e, h, he, hshort, -⟩ |
    ⟨a, b, h, hhex, hcontrol⟩
  · rw [h]
    exact readUnits?_plain hquote hbackslash hcontrol acc rest
  · rw [h]
    exact readUnits?_short he hshort acc rest
  · rw [h]
    exact readUnits?_hex hhex hcontrol acc rest

/-- **A text that was written is read as its units.** -/
theorem readUnits?_escapedText (s : String) (rest : List Char) :
    readUnits? #[] (escapedText s ++ '"' :: rest) = some (Units.ofString s, rest) := by
  have hclose (acc : Units) (rest : List Char) :
      readUnits? acc ('"' :: rest) = some (acc, rest) := by rw [readUnits?]
  have hchar (c : Char) (_ : c ∈ s.toList) (acc : Units) (rest : List Char) :
      readUnits? acc (escaped c ++ rest) = readUnits? (acc ++ Units.ofChar c) rest :=
    readUnits?_escaped acc c rest
  have hread := Units.read_flatMap hclose hchar #[] rest
  rwa [Array.empty_append] at hread

/-! ## 3. Numbers -/

theorem readDatum?_literal {fuel : Nat} {cs r : List Char} {l : Json.Number.Literal}
    (h : Json.readLiteral? false cs = some (l, r)) :
    readDatum? (fuel + 1) cs = some (.number (literalValue l), r) := by
  obtain ⟨c, cs, rfl, hc⟩ := Json.isDigit_of_readLiteral? h
  rw [readDatum?.eq_def]
  dsimp only
  split
  case h_8 =>
    rw [h]
    rfl
  all_goals
    rename_i heq
    cases heq
    exact absurd hc (by decide)

theorem readDatum?_minus (fuel : Nat) (cs : List Char) : readDatum? (fuel + 1) ('-' :: cs) =
    (Json.readLiteral? true cs).map fun p => (.number (literalValue p.1), p.2) := by
  rw [readDatum?.eq_def]
  rfl

/-- What the text of a number says by itself. -/
def Datum.ofNumber (n : Json.Number) : Datum :=
  ((readDatum? 1 n.text.toList).map Prod.fst).getD .null

/-- **The text of a number is read where it ends**, as it is read by itself. -/
theorem readDatum?_number (n : Json.Number) (hrest : Json.Ends rest) (fuel : Nat) :
    readDatum? (fuel + 1) (n.text.toList ++ rest) = some (.ofNumber n, rest) := by
  have hdatum {d : Datum} (h : readDatum? 1 n.text.toList = some (d, [])) :
      Datum.ofNumber n = d := by
    rw [Datum.ofNumber, h]
    rfl
  rcases n.text_cases with h | ⟨cs, hcs, h | h⟩
  · rw [h] at hdatum ⊢
    rw [hdatum (d := .null) rfl, readDatum?.eq_def]
    rfl
  · obtain ⟨l, hl⟩ := hcs.read false
    rw [h] at hdatum ⊢
    rw [hdatum (readDatum?_literal hl), readDatum?_literal (Json.readLiteral?_append hrest hl)]
    rfl
  · obtain ⟨l, hl⟩ := hcs.read true
    rw [h] at hdatum ⊢
    have halone : readDatum? 1 ('-' :: cs) = some (.number (literalValue l), []) := by
      rw [readDatum?_minus, hl]
      rfl
    rw [hdatum halone, List.cons_append, readDatum?_minus, Json.readLiteral?_append hrest hl]
    rfl

theorem digit?_of_isDigit {c : Char} (h : c.isDigit = true) :
    Numeral.digit? 10 c = some (c.toNat - '0'.toNat) := by
  have hbounds : '0' ≤ c ∧ c ≤ '9' := by
    rw [Char.isDigit, Bool.and_eq_true, decide_eq_true_eq, decide_eq_true_eq] at h
    exact h
  have hlt : c.toNat - '0'.toNat < 10 := by
    have hle : c.toNat ≤ '9'.toNat := hbounds.2
    have hnine : '9'.toNat = '0'.toNat + 9 := rfl
    omega
  unfold Numeral.digit?
  rw [if_pos hbounds]
  exact if_pos hlt

theorem readDigits_eq {cs : List Char} (h : ∀ c ∈ cs, c.isDigit = true) (acc : List Nat) :
    Numeral.readDigits 10 acc cs = (acc.reverse ++ cs.map fun c => c.toNat - '0'.toNat, []) := by
  induction cs generalizing acc with
  | nil => rw [Numeral.readDigits, List.map_nil, List.append_nil]
  | cons c cs ih =>
    obtain ⟨hc, hcs⟩ := List.forall_mem_cons.mp h
    rw [Numeral.readDigits, digit?_of_isDigit hc]
    dsimp only
    rw [ih hcs, List.reverse_cons, List.append_assoc]
    rfl

theorem exactValue_toDigits (n : Nat) :
    Numeral.exactValue 10 (Numeral.readDigits 10 [] (Nat.toDigits 10 n)).1 = n := by
  have hdigits : ∀ c ∈ Nat.toDigits 10 n, c.isDigit = true := fun c hc =>
    Nat.isDigit_of_mem_toDigits (by decide) (by decide) hc
  rw [readDigits_eq hdigits, List.reverse_nil, List.nil_append, Numeral.exactValue,
    List.foldl_map]
  exact Nat.ofDigitChars_ten_toDigits

/-- **A whole number is read as the float nearest to it.** -/
theorem Datum.ofNumber_integer (i : Int) : Datum.ofNumber (.integer i) =
    .number (Numeral.signed (decide (i < 0)) (Numeral.scaled i.natAbs 0)) := by
  have hvalue (negative : Bool) (n : Nat) :
      literalValue ⟨negative, Nat.toDigits 10 n, none, none⟩ =
        Numeral.signed negative (Numeral.scaled n 0) := by
    unfold literalValue
    dsimp only
    rw [Option.getD_none, Numeral.readDigits, List.reverse_nil, List.append_nil,
      exactValue_toDigits]
    rfl
  cases i with
  | ofNat n =>
    have htext : (Json.Number.integer (.ofNat n)).text.toList = Nat.toDigits 10 n :=
      Nat.toList_repr
    rw [ofNumber, htext, readDatum?_literal (Json.Number.readLiteral?_toDigits false n), hvalue]
    rfl
  | negSucc n =>
    have htext : (Json.Number.integer (.negSucc n)).text.toList =
        '-' :: Nat.toDigits 10 (n + 1) := by
      change ("-" ++ (n + 1).repr).toList = _
      rw [String.toList_append, Nat.toList_repr]
      rfl
    rw [ofNumber, htext, readDatum?_minus, Json.Number.readLiteral?_toDigits, Option.map_some,
      hvalue, decide_eq_true (Int.negSucc_lt_zero n), Int.natAbs_negSucc]
    rfl

/-! ## 4. Values -/

open Json (Ends spelled spelledItems spelledMembers skipGap isGap ends_spelledItems
  ends_spelledMembers spelledItems_pos spelledMembers_pos toList_quoted)

mutual

/-- What a value says to a script. -/
def Datum.ofJson : Json → Datum
  | .null => .null
  | .bool b => .bool b
  | .number n => .ofNumber n
  | .string s => .text (Units.ofString s)
  | .array vs => .list (ofItems vs)
  | .object ms => .record (ofMembers ms)

def Datum.ofItems : List Json → List Datum
  | [] => []
  | v :: vs => ofJson v :: ofItems vs

def Datum.ofMembers : List (String × Json) → List (Units × Datum)
  | [] => []
  | (k, v) :: ms => (Units.ofString k, ofJson v) :: ofMembers ms

end

/-- What is read begins neither with a blank nor with a closing bracket. -/
theorem begins_of_readDatum? {fuel : Nat} {cs : List Char} {found : Datum × List Char}
    (h : readDatum? fuel cs = some found) : ∃ c r, cs = c :: r ∧ isGap c = false ∧ c ≠ ']' := by
  cases fuel with
  | zero => cases h
  | succ fuel =>
    rw [readDatum?.eq_def] at h
    dsimp only at h
    split at h
    case h_8 =>
      obtain ⟨⟨l, r⟩, hl, -⟩ := Option.map_eq_some_iff.mp h
      obtain ⟨c, r, rfl, hc⟩ := Json.isDigit_of_readLiteral? hl
      have hother : isGap c = false ∧ c ≠ ']' := by
        refine ⟨?_, by rintro rfl; exact absurd hc (by decide)⟩
        unfold isGap
        simp only [Bool.or_eq_false_iff, decide_eq_false_iff_not]
        refine ⟨⟨⟨?_, ?_⟩, ?_⟩, ?_⟩ <;>
          · rintro rfl
            exact absurd hc (by decide)
      exact ⟨c, r, rfl, hother⟩
    all_goals exact ⟨_, _, rfl, by decide, by decide⟩

theorem skipGap_of_readDatum? {fuel : Nat} {cs : List Char} {found : Datum × List Char}
    (h : readDatum? fuel cs = some found) : skipGap cs = cs := by
  obtain ⟨c, r, rfl, hc, -⟩ := begins_of_readDatum? h
  exact List.dropWhile_cons_of_neg (by simp [hc])

theorem spelled_pos (v : Json) : 0 < (spelled v).length := by
  cases v with
  | null => exact Nat.succ_pos _
  | bool b => cases b <;> exact Nat.succ_pos _
  | number n =>
    have hends : Ends [] := nofun
    have hread := readDatum?_number n hends 0
    rw [List.append_nil] at hread
    obtain ⟨c, r, htext, -⟩ := begins_of_readDatum? hread
    rw [spelled, htext]
    exact Nat.succ_pos _
  | string s =>
    rw [spelled, toList_quoted]
    exact Nat.succ_pos _
  | array vs => cases vs <;> exact Nat.succ_pos _
  | object ms => cases ms <;> exact Nat.succ_pos _

/-- A list that does not end at once is read item by item. -/
theorem readDatum?_items {fuel fuel' : Nat} {r : List Char} {found : Datum × List Char}
    (h : readDatum? fuel' r = some found) :
    readDatum? (fuel + 1) ('[' :: r) = readListItems? fuel [] r := by
  have hgap := skipGap_of_readDatum? h
  obtain ⟨c, r, rfl, -, hc⟩ := begins_of_readDatum? h
  rw [readDatum?.eq_def]
  dsimp only
  split
  case h_1 heq =>
    cases heq
    rw [hgap]
    split
    · rename_i heq
      cases heq
      exact absurd rfl hc
    · rfl
  case h_8 hother _ _ _ _ _ _ => exact absurd rfl (hother _)
  all_goals
    rename_i heq
    cases heq

/-- A record that begins with a key is read member by member. -/
theorem readDatum?_members (fuel : Nat) (key : String) (r : List Char) :
    readDatum? (fuel + 1) ('\x7b' :: ((Json.quoted key).toList ++ r)) =
      readRecordMembers? fuel [] ((Json.quoted key).toList ++ r) := by
  rw [toList_quoted, readDatum?.eq_def]
  rfl

/-- What is read of a list after one of its items. -/
def afterItem (fuel : Nat) (acc : List Datum) (r : List Char) : Option (Datum × List Char) :=
  match skipGap r with
  | ',' :: r => readListItems? fuel acc r
  | ']' :: r => some (.list acc.reverse, r)
  | _ => none

/-- What is read of a record after one of its members. -/
def afterMember (fuel : Nat) (acc : List (Units × Datum)) (r : List Char) :
    Option (Datum × List Char) :=
  match skipGap r with
  | ',' :: r => readRecordMembers? fuel acc r
  | '\x7d' :: r => some (.record acc.reverse, r)
  | _ => none

theorem readListItems?_succ (fuel : Nat) (acc : List Datum) (cs : List Char) :
    readListItems? (fuel + 1) acc cs = (readDatum? fuel (skipGap cs)).bind fun p =>
      afterItem fuel (p.1 :: acc) p.2 := by
  rw [readListItems?]
  cases readDatum? fuel (skipGap cs) <;> rfl

theorem readRecordMembers?_succ (fuel : Nat) (acc : List (Units × Datum)) (key : String)
    (r : List Char) :
    readRecordMembers? (fuel + 1) acc ((Json.quoted key).toList ++ ':' :: r) =
      (readDatum? fuel (skipGap r)).bind fun p =>
        afterMember fuel ((Units.ofString key, p.1) :: acc) p.2 := by
  have hquote (cs : List Char) : skipGap ('"' :: cs) = '"' :: cs := rfl
  have hcolon : skipGap (':' :: r) = ':' :: r := rfl
  rw [toList_quoted, List.cons_append, List.append_assoc, List.singleton_append,
    readRecordMembers?, hquote]
  split
  · rename_i heq
    cases heq
    rw [readUnits?_escapedText]
    dsimp only
    rw [hcolon]
    split
    · rename_i heq
      cases heq
      cases readDatum? fuel (skipGap r) <;> rfl
    · rename_i hother
      exact absurd rfl (hother r)
  · rename_i hother
    exact absurd rfl (hother _)

mutual

/-- **A value that was spelled is read as what it says**, whatever follows it. -/
theorem readDatum?_spelled : ∀ (v : Json) {fuel : Nat} {rest : List Char}, Ends rest →
    (spelled v).length ≤ fuel → readDatum? fuel (spelled v ++ rest) = some (.ofJson v, rest)
  | .null, fuel + 1, _, _, _ => by rw [readDatum?.eq_def]; rfl
  | .bool true, fuel + 1, _, _, _ => by rw [readDatum?.eq_def]; rfl
  | .bool false, fuel + 1, _, _, _ => by rw [readDatum?.eq_def]; rfl
  | .number n, fuel + 1, _, hrest, _ => readDatum?_number n hrest fuel
  | .string s, fuel + 1, rest, _, _ => by
    rw [spelled, toList_quoted, List.cons_append, List.append_assoc, List.singleton_append,
      readDatum?.eq_def]
    change (readUnits? #[] (escapedText s ++ '"' :: rest)).map _ = _
    rw [readUnits?_escapedText]
    rfl
  | .array [], fuel + 1, _, _, _ => by rw [readDatum?.eq_def]; rfl
  | .object [], fuel + 1, _, _, _ => by rw [readDatum?.eq_def]; rfl
  | .array (v :: vs), fuel + 1, rest, hrest, hfuel => by
    have hlength := spelledItems_pos vs
    have hpos := spelled_pos v
    rw [spelled, List.length_cons, List.length_append] at hfuel
    obtain ⟨fuel, rfl⟩ := Nat.exists_eq_add_one_of_ne_zero (show fuel ≠ 0 by omega)
    have hread : readDatum? fuel (spelled v ++ (spelledItems vs ++ rest)) = some (_, _) :=
      readDatum?_spelled v (ends_spelledItems vs rest) (by omega)
    rw [spelled, List.cons_append, List.append_assoc, readDatum?_items hread, readListItems?_succ,
      skipGap_of_readDatum? hread, hread, Option.bind_some, afterItem_spelled vs _ (by omega)]
    rfl
  | .object ((k, v) :: ms), fuel + 1, rest, hrest, hfuel => by
    have hlength := spelledMembers_pos ms
    have hpos := spelled_pos v
    rw [spelled, List.length_cons, List.length_append, List.length_cons, List.length_append]
      at hfuel
    obtain ⟨fuel, rfl⟩ := Nat.exists_eq_add_one_of_ne_zero (show fuel ≠ 0 by omega)
    have hread : readDatum? fuel (spelled v ++ (spelledMembers ms ++ rest)) = some (_, _) :=
      readDatum?_spelled v (ends_spelledMembers ms rest) (by omega)
    rw [spelled, List.cons_append, List.append_assoc, List.cons_append, List.append_assoc,
      readDatum?_members, readRecordMembers?_succ, skipGap_of_readDatum? hread, hread,
      Option.bind_some, afterMember_spelled ms _ (by omega)]
    rfl
  | v, 0, _, _, hfuel => absurd hfuel (Nat.not_le_of_lt (spelled_pos v))

theorem afterItem_spelled : ∀ (vs : List Json) {fuel : Nat} {rest : List Char} (acc : List Datum),
    (spelledItems vs).length ≤ fuel + 1 → afterItem fuel acc (spelledItems vs ++ rest) =
      some (.list (acc.reverse ++ Datum.ofItems vs), rest)
  | [], fuel, rest, acc, _ => by
    rw [Datum.ofItems, List.append_nil]
    rfl
  | v :: vs, fuel, rest, acc, hfuel => by
    have hlength := spelledItems_pos vs
    have hpos := spelled_pos v
    rw [spelledItems, List.length_cons, List.length_append] at hfuel
    obtain ⟨fuel, rfl⟩ := Nat.exists_eq_add_one_of_ne_zero (show fuel ≠ 0 by omega)
    have hread : readDatum? fuel (spelled v ++ (spelledItems vs ++ rest)) = some (_, _) :=
      readDatum?_spelled v (ends_spelledItems vs rest) (by omega)
    rw [spelledItems, List.cons_append, List.append_assoc]
    change readListItems? (fuel + 1) acc _ = _
    rw [readListItems?_succ, skipGap_of_readDatum? hread, hread, Option.bind_some,
      afterItem_spelled vs _ (by omega), List.reverse_cons, List.append_assoc]
    rfl

theorem afterMember_spelled : ∀ (ms : List (String × Json)) {fuel : Nat} {rest : List Char}
    (acc : List (Units × Datum)), (spelledMembers ms).length ≤ fuel + 1 →
    afterMember fuel acc (spelledMembers ms ++ rest) =
      some (.record (acc.reverse ++ Datum.ofMembers ms), rest)
  | [], fuel, rest, acc, _ => by
    rw [Datum.ofMembers, List.append_nil]
    rfl
  | (k, v) :: ms, fuel, rest, acc, hfuel => by
    have hlength := spelledMembers_pos ms
    have hpos := spelled_pos v
    rw [spelledMembers, List.length_cons, List.length_append, List.length_cons,
      List.length_append] at hfuel
    obtain ⟨fuel, rfl⟩ := Nat.exists_eq_add_one_of_ne_zero (show fuel ≠ 0 by omega)
    have hread : readDatum? fuel (spelled v ++ (spelledMembers ms ++ rest)) = some (_, _) :=
      readDatum?_spelled v (ends_spelledMembers ms rest) (by omega)
    rw [spelledMembers, List.cons_append, List.append_assoc, List.cons_append, List.append_assoc]
    change readRecordMembers? (fuel + 1) acc _ = _
    rw [readRecordMembers?_succ, skipGap_of_readDatum? hread, hread, Option.bind_some,
      afterMember_spelled ms _ (by omega), List.reverse_cons, List.append_assoc]
    rfl

end

/-! ## 5. Texts -/

/-- **The compact text of a value is made into what the value says**, if it can be read at all. -/
theorem read_compact (v : Json) : read (Units.ofString v.compact) =
    if (Json.ofText? v.compact).isSome then build (.ofJson v)
    else Machine.raiseError .form "malformed JSON" := by
  have hread : readDatum? ((spelled v).length + 1) (spelled v ++ []) = some (.ofJson v, []) :=
    readDatum?_spelled v nofun (Nat.le_succ _)
  rw [List.append_nil] at hread
  unfold read
  rw [Units.chars_ofString, Units.toString?_ofString, Json.toList_compact,
    skipGap_of_readDatum? hread, Option.bind_some]
  dsimp only
  rw [hread]
  cases Json.ofText? v.compact <;> rfl

/-- A compact text can be read when the value does not nest too deep and its floating-point numbers
are read back. -/
theorem isSome_ofText?_compact {v : Json} (hfits : (Json.Document.ofValue v).Fits Json.maxDepth)
    (hlegible : ∀ x, .real x ∈ (Json.Document.ofValue v).numbers →
      (Json.Number.real x).Legible) : (Json.ofText? v.compact).isSome = true := by
  rw [Json.ofText?, Json.Document.ofText?_compact hfits hlegible]
  exact Json.Document.isReadable_ofValue v

end JsonText

/-- The function that scripts read JSON with, applied to the compact text of a value. -/
theorem Library.readJson_compact (call : Caller) (receiver : Value) (v : Json) :
    apply call .readJson receiver [.text (Units.ofString v.compact)] =
      if (Json.ofText? v.compact).isSome then JsonText.build (.ofJson v)
      else Machine.raiseError .form "malformed JSON" := by
  have htext : Conversion.text call (.text (Units.ofString v.compact)) =
      pure (Units.ofString v.compact) := rfl
  have hplain : Machine.isCallable .undefined = pure false := rfl
  have happly : apply call .readJson receiver [.text (Units.ofString v.compact)] =
      Conversion.text call (.text (Units.ofString v.compact)) >>= fun u =>
        JsonText.readRevised call u .undefined := rfl
  rw [happly, htext, pure_bind, ← JsonText.read_compact, JsonText.readRevised, hplain]
  simp only [pure_bind]
  exact bind_pure _

end Workgraph.Script
