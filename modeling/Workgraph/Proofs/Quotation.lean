import Workgraph.Proofs.Decimals
import Workgraph.Proofs.Transcription
import Workgraph.Script.Engine

/-!
# Quoted values

A value is put into a script as its compact text between single quotes. This file follows what a
reader of string literals makes of it, character by character.

* No character of a compact text is a control (`Json.printable_compact`): strings are escaped, and
  numbers, punctuation and words consist of other characters. So a line never ends in it.
* Each character is written so that it adds its own units to the literal and does not close it
  (`readLiteral?_quotedChar`); hence all of a text is read back, up to the quote behind it
  (`readLiteral?_quotedBody`) and not before (`readLiteral?_prefix`).
* `bound_eq` says where in the script the literal stands.
-/

namespace Workgraph

/-! ## 1. Compact text is printable -/

namespace Json

/-- Characters none of which is a control. -/
def Printable (cs : List Char) : Prop := ∀ c ∈ cs, 32 ≤ c.toNat

instance (cs : List Char) : Decidable (Printable cs) := List.decidableBAll _ cs

namespace Printable

variable {c : Char} {cs ds : List Char}

theorem cons (hc : 32 ≤ c.toNat) (h : Printable cs) : Printable (c :: cs) :=
  List.forall_mem_cons.mpr ⟨hc, h⟩

theorem append (h : Printable cs) (h' : Printable ds) : Printable (cs ++ ds) :=
  fun c hc => (List.mem_append.mp hc).elim (h c) (h' c)

theorem flatMap {f : Char → List Char} (h : ∀ c ∈ cs, Printable (f c)) :
    Printable (cs.flatMap f) := fun x hx => by
  obtain ⟨c, hc, hx⟩ := List.mem_flatMap.mp hx
  exact h c hc x hx

/-- A character that ends a line is a control. -/
theorem not_mem (h : Printable cs) (hc : c.toNat < 32) : c ∉ cs := fun hmem =>
  absurd (h c hmem) (Nat.not_le_of_lt hc)

end Printable

theorem printable_of_shortEscape? {c e : Char} (h : shortEscape? e = some c) : 32 ≤ e.toNat := by
  unfold shortEscape? at h
  split_ifs at h <;> subst_vars <;> decide

theorem printable_of_hexValue? {c : Char} {n : Nat} (h : hexValue? c = some n) :
    32 ≤ c.toNat := by
  have hle (d : Char) : d ≤ c → d.toNat ≤ c.toNat := id
  unfold hexValue? at h
  split_ifs at h with h0 ha hA
  · exact (by decide : 32 ≤ '0'.toNat).trans (hle _ h0.1)
  · exact (by decide : 32 ≤ 'a'.toNat).trans (hle _ ha.1)
  · exact (by decide : 32 ≤ 'A'.toNat).trans (hle _ hA.1)

theorem printable_escaped (c : Char) : Printable (escaped c) := by
  rcases escaped_cases c with ⟨h, -, -, hcontrol⟩ | ⟨e, h, -, hshort, -⟩ | ⟨a, b, h, hhex, -⟩
  · rw [h]
    exact .cons hcontrol nofun
  · rw [h]
    exact .cons (by decide) (.cons (printable_of_shortEscape? hshort) nofun)
  · rw [h]
    unfold hex4? at hhex
    simp only [Option.bind_eq_bind, Option.bind_eq_some_iff] at hhex
    obtain ⟨_, -, _, -, _, ha, _, hb, -⟩ := hhex
    have hprefix : Printable ['\\', 'u', '0', '0'] := by decide
    have ha := printable_of_hexValue? ha
    have hb := printable_of_hexValue? hb
    exact hprefix.append (.cons ha (.cons hb nofun))

theorem printable_quoted (s : String) : Printable (quoted s).toList := by
  have hbody : Printable (escapedText s) := .flatMap fun c _ => printable_escaped c
  rw [toList_quoted]
  exact .cons (by decide) (hbody.append (by decide))

theorem printable_of_isNumeric {c : Char} (h : isNumeric c = true) : 32 ≤ c.toNat := by
  unfold isNumeric at h
  simp only [Bool.or_eq_true, decide_eq_true_eq] at h
  rcases h with (((hdigit | rfl) | rfl) | rfl) | rfl
  · exact (by decide : 32 ≤ 48).trans (Char.isDigit_iff_toNat.mp hdigit).1
  all_goals decide

theorem printable_text (n : Number) : Printable n.text.toList := by
  rcases n.text_cases with h | ⟨cs, hcs, h | h⟩
  · rw [h]
    decide
  · rw [h]
    exact fun c hc => printable_of_isNumeric (hcs.numeric c hc)
  · rw [h]
    exact .cons (by decide) fun c hc => printable_of_isNumeric (hcs.numeric c hc)

mutual

theorem printable_spelled : ∀ v : Json, Printable (spelled v)
  | .null | .bool true | .bool false | .array [] | .object [] => by decide
  | .number n => printable_text n
  | .string s => printable_quoted s
  | .array (v :: vs) => .cons (by decide) ((printable_spelled v).append (printable_spelledItems vs))
  | .object ((k, v) :: ms) =>
    .cons (by decide) ((printable_quoted k).append (.cons (by decide)
      ((printable_spelled v).append (printable_spelledMembers ms))))

theorem printable_spelledItems : ∀ vs : List Json, Printable (spelledItems vs)
  | [] => by decide
  | v :: vs => .cons (by decide) ((printable_spelled v).append (printable_spelledItems vs))

theorem printable_spelledMembers : ∀ ms : List (String × Json), Printable (spelledMembers ms)
  | [] => by decide
  | (k, v) :: ms =>
    .cons (by decide) ((printable_quoted k).append (.cons (by decide)
      ((printable_spelled v).append (printable_spelledMembers ms))))

end

/-- **No control stands in the compact text of a value.** -/
theorem printable_compact (v : Json) : Printable v.compact.toList := by
  rw [toList_compact]
  exact printable_spelled v

end Json

namespace Script

open Json (Printable)

/-! ## 2. Literals that are written -/

/-- Characters with a backslash in front of each `c`. -/
def guarded (c : Char) (cs : List Char) : List Char :=
  cs.flatMap fun x => if x = c then ['\\', x] else [x]

/-- A text is quoted by guarding its backslashes and then its quotes. -/
theorem quotedBody_eq (s : String) : quotedBody s = guarded '\'' (guarded '\\' s.toList) := by
  unfold quotedBody guarded
  rw [List.flatMap_assoc]
  refine List.flatMap_congr fun c _ => ?_
  unfold quotedChar
  by_cases hbackslash : c = '\\'
  · subst hbackslash
    rfl
  · rw [if_neg hbackslash, if_neg hbackslash, List.flatMap_singleton]
    split_ifs with hquote
    · rw [hquote]
    · rfl

/-- The other way round the backslash in front of a quote is taken for part of the text, and the
quote closes the literal. -/
example : readLiteral? '\'' .plain #[] (guarded '\\' (guarded '\'' ['\'']) ++ ['\'']) =
    some (#[92], ['\'']) := by decide

theorem printable_quotedBody {s : String} (h : Printable s.toList) : Printable (quotedBody s) := by
  refine .flatMap fun c hc => ?_
  unfold quotedChar
  split_ifs
  · decide
  · decide
  · exact .cons (h c hc) nofun

/-! ## 3. Literals that are read -/

theorem Units.append_ofChars_cons (acc : Units) (c : Char) (cs : List Char) :
    acc ++ ofChar c ++ ofChars cs = acc ++ ofChars (c :: cs) := by
  unfold ofChars
  rw [List.flatMap_cons]
  apply Array.ext'
  simp

/-- A text between quotes is read whole when each character is read as its units. -/
theorem Units.read_flatMap {read? : Units → List Char → Option (Units × List Char)}
    {write : Char → List Char} {close : Char} {cs : List Char}
    (hclose : ∀ acc rest, read? acc (close :: rest) = some (acc, rest))
    (hchar : ∀ c ∈ cs, ∀ acc rest, read? acc (write c ++ rest) = read? (acc ++ ofChar c) rest)
    (acc : Units) (rest : List Char) :
    read? acc (cs.flatMap write ++ close :: rest) = some (acc ++ ofChars cs, rest) := by
  induction cs generalizing acc with
  | nil =>
    have hempty : ofChars [] = #[] := rfl
    rw [hempty, Array.append_empty]
    exact hclose acc rest
  | cons c cs ih =>
    obtain ⟨hc, hcs⟩ := List.forall_mem_cons.mp hchar
    rw [List.flatMap_cons, List.append_assoc, hc, ih hcs, append_ofChars_cons]

/-- What is read of a literal is not read otherwise when more follows. -/
theorem readLiteral?_append {close : Char} {phase : Phase} {acc units : Units}
    {cs rest : List Char} (h : readLiteral? close phase acc cs = some (units, rest))
    (more : List Char) :
    readLiteral? close phase acc (cs ++ more) = some (units, rest ++ more) := by
  induction cs generalizing phase acc with
  | nil => cases h
  | cons c cs ih =>
    unfold readLiteral? at h
    rw [List.cons_append]
    unfold readLiteral?
    cases hstep : literalStep? close phase acc c with
    | none =>
      rw [hstep] at h
      cases h
    | some step =>
      rw [hstep] at h
      cases step with
      | closed units' =>
        cases h
        rfl
      | next phase' acc' => exact ih h

/-- **A character that was written adds its units** and leaves the literal open. -/
theorem readLiteral?_quotedChar {c : Char} (hc : 32 ≤ c.toNat) (acc : Units) (rest : List Char) :
    readLiteral? '\'' .plain acc (quotedChar c ++ rest) =
      readLiteral? '\'' .plain (acc ++ Units.ofChar c) rest := by
  unfold quotedChar
  split_ifs with hbackslash hquote
  · subst hbackslash
    rfl
  · subst hquote
    rfl
  · have hline : breaksLiteral c = false := by
      unfold breaksLiteral
      rw [Bool.or_eq_false_iff, decide_eq_false_iff_not, decide_eq_false_iff_not]
      constructor <;> rintro rfl <;> exact absurd hc (by decide)
    have hstep : literalStep? '\'' .plain acc c = some (.next .plain (acc ++ Units.ofChar c)) := by
      unfold literalStep? plainStep?
      rw [if_neg hquote, hline, if_neg Bool.false_ne_true, if_neg hbackslash]
    rw [List.singleton_append, readLiteral?, hstep]

/-- **A text that was quoted is read as itself**, up to the quote behind it. -/
theorem readLiteral?_quotedBody {s : String} (h : Printable s.toList) (rest : List Char) :
    readLiteral? '\'' .plain #[] (quotedBody s ++ '\'' :: rest) =
      some (Units.ofString s, rest) := by
  have hclose (acc : Units) (rest : List Char) :
      readLiteral? '\'' .plain acc ('\'' :: rest) = some (acc, rest) := rfl
  have hchar (c : Char) (hc : c ∈ s.toList) (acc : Units) (rest : List Char) :
      readLiteral? '\'' .plain acc (quotedChar c ++ rest) =
        readLiteral? '\'' .plain (acc ++ Units.ofChar c) rest :=
    readLiteral?_quotedChar (h c hc) acc rest
  have hread := Units.read_flatMap hclose hchar #[] rest
  rwa [Array.empty_append] at hread

/-- No quote before closes the literal. -/
theorem readLiteral?_prefix {s : String} (h : Printable s.toList) {cs : List Char}
    (hcs : cs <+: quotedBody s) : readLiteral? '\'' .plain #[] cs = none := by
  obtain ⟨more, hmore⟩ := hcs
  cases hread : readLiteral? '\'' .plain #[] cs with
  | none => rfl
  | some found =>
    obtain ⟨units, rest⟩ := found
    have hwhole := readLiteral?_quotedBody h []
    rw [← hmore, List.append_assoc, readLiteral?_append hread] at hwhole
    have hrest := congrArg Prod.snd (Option.some.inj hwhole)
    simp at hrest

/-! ## 4. Values -/

theorem bound_eq (v : Json) :
    bound v = "JSON.parse('" ++ String.ofList (quotedBody v.compact) ++ "')" := by
  have hopen : "JSON.parse('" = "JSON.parse(" ++ "'" := rfl
  have hclose : "')" = "'" ++ ")" := rfl
  rw [hopen, hclose]
  unfold bound quoted
  simp only [String.append_assoc]

end Script

end Workgraph
