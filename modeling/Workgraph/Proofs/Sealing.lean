import Workgraph.Proofs.Lexing
import Workgraph.Proofs.Parsing

/-!
# Values stay in their bindings

A script is put into a text whose first lines bind names to copies of values. This file says what
the values can do to that text.

* `bindingCues` are the tokens of a line that binds a name, ten of them. One depends on the value,
  and it is a text (`cues?_bindingLine`).
* `toList_wrapped` cuts the whole text into what stands before the bindings, their lines, and what
  stands behind them; lines are read one by one (`cues?_lines`).
* `Sealed` is what holds of a value and its expression, and `values_sealed` the result: all values
  are sealed, and the tokens of a script are those around the bindings and those of the bindings.
-/

namespace Workgraph.Script

/-! ## 1. One binding -/

namespace Token

/-- A word goes on as long as its characters do, up to a blank. -/
theorem word?_blank {acc ds : List Char} (hacc : acc ≠ [])
    (hds : ∀ c ∈ ds, continuesWord c = true) (rest : List Char) :
    word? acc false (ds ++ ' ' :: rest) =
      some (.word (String.ofList (acc.reverse ++ ds)) false, ' ' :: rest) := by
  have hfits {acc : List Char} (hacc : acc ≠ []) (c : Char) : fits acc c = continuesWord c :=
    if_neg (by rwa [List.isEmpty_iff])
  induction ds generalizing acc with
  | nil =>
    have hstops : letter acc false (' ' :: rest) = .stops := by
      rw [letter, hfits hacc]
      · rfl
      · decide
    rw [List.nil_append, List.append_nil, word?_eq, hstops]
  | cons c ds ih =>
    obtain ⟨hc, hds⟩ := List.forall_mem_cons.mp hds
    have hgoes : letter acc false (c :: (ds ++ ' ' :: rest)) =
        .goes (c, false) (ds ++ ' ' :: rest) := by
      rw [letter, hfits hacc]
      · exact if_pos hc
      · rintro rfl
        exact absurd hc (by decide)
    rw [List.cons_append, word?_eq, hgoes]
    dsimp only
    rw [ih (List.cons_ne_nil c acc) hds, List.reverse_cons, List.append_assoc]
    rfl

/-- Whether a name that can be bound may begin with a character. -/
def isInitial (c : Char) : Bool := c.isAlpha || c == '_' || c == '$'

/-- What a name that can be bound begins with. -/
theorem exists_initial {name : String} (h : isBindable name = true) :
    ∃ c cs, name.toList = c :: cs ∧ isInitial c = true ∧ ∀ d ∈ cs, continuesWord d = true := by
  unfold isBindable at h
  split at h
  · cases h
  · cases h
  · next c cs _ hchars =>
    rw [Bool.and_eq_true, List.all_eq_true] at h
    refine ⟨c, cs, hchars, h.1, fun d hd => ?_⟩
    have hd := h.2 d hd
    simp only [Bool.or_eq_true, beq_iff_eq] at hd
    rcases hd with (hd | rfl) | rfl
    · unfold continuesWord
      rw [Text.continuesName_of_isAlphanum hd, Bool.or_true]
    · decide
    · decide

theorem startsWord_of_isInitial {c : Char} (h : isInitial c = true) : startsWord c = true := by
  unfold isInitial at h
  unfold startsWord
  simp only [Bool.or_eq_true, beq_iff_eq, decide_eq_true_eq] at h ⊢
  rcases h with (h | h) | h
  · exact .inr (Text.startsName_of_isAlpha h)
  · exact .inl (.inl h)
  · exact .inl (.inr h)

theorem bounds_of_isAlpha {c : Char} (h : c.isAlpha = true) :
    65 ≤ c.toNat ∧ c.toNat ≤ 122 := by
  unfold Char.isAlpha Char.isUpper Char.isLower at h
  simp only [Bool.or_eq_true, Bool.and_eq_true, decide_eq_true_eq, UInt32.le_iff_toNat_le,
    ge_iff_le] at h
  change 65 ≤ c.toNat ∧ c.toNat ≤ 90 ∨ 97 ≤ c.toNat ∧ c.toNat ≤ 122 at h
  omega

theorem bounds_of_isInitial {c : Char} (h : isInitial c = true) :
    36 ≤ c.toNat ∧ c.toNat < 123 := by
  unfold isInitial at h
  simp only [Bool.or_eq_true, beq_iff_eq] at h
  rcases h with (h | rfl) | rfl
  · have hbounds := bounds_of_isAlpha h
    omega
  · decide
  · decide

/-- What a name begins with is neither skipped nor the beginning of a comment. -/
theorem gap_of_isInitial {c : Char} (h : isInitial c = true) (line : Bool) (r : List Char) :
    gap line (c :: r) = .stops := by
  obtain ⟨hfirst, hlast⟩ := bounds_of_isInitial h
  have hslash : c ≠ '/' := by
    rintro rfl
    exact absurd h (by decide)
  have hends : endsLine c = false := by
    unfold endsLine
    simp only [Bool.or_eq_false_iff, decide_eq_false_iff_not]
    refine ⟨⟨⟨?_, ?_⟩, ?_⟩, ?_⟩ <;>
      · rintro rfl
        exact absurd h (by decide)
  have hspace : ∀ n < 123, 36 ≤ n → Units.isSpace n = false := by decide
  rw [gap, hends, hspace c.toNat hlast hfirst]
  · rfl
  · exact fun _ heq => absurd heq hslash
  · exact fun _ heq => absurd heq hslash

/-- **A name that can be bound is one word**, behind the blank before it. -/
theorem cues?_name {name : String} (h : isBindable name = true) (rest : List Char) :
    cues? (' ' :: (name.toList ++ ' ' :: rest)) =
      (cues? (' ' :: rest)).map ((.word name false, false) :: ·) := by
  obtain ⟨c, cs, hchars, hc, hcs⟩ := exists_initial h
  have hname : String.ofList (c :: cs) = name := by rw [← hchars, String.ofList_toList]
  have hskip : skip? false (' ' :: c :: (cs ++ ' ' :: rest)) =
      some (false, c :: (cs ++ ' ' :: rest)) := by
    have hblank : gap false (' ' :: c :: (cs ++ ' ' :: rest)) =
        .goes false (c :: (cs ++ ' ' :: rest)) := rfl
    rw [skip?_eq, hblank]
    dsimp only
    rw [skip?_eq, gap_of_isInitial hc]
  have hgoes : letter [] false (c :: (cs ++ ' ' :: rest)) =
      .goes (c, false) (cs ++ ' ' :: rest) := by
    rw [letter]
    · exact if_pos (startsWord_of_isInitial hc)
    · rintro rfl
      exact absurd hc (by decide)
  have hnext : next? (c :: (cs ++ ' ' :: rest)) = some (.word name false, ' ' :: rest) := by
    rw [next?_cons, if_pos (by rw [startsWord_of_isInitial hc]; rfl), word?_eq, hgoes]
    dsimp only
    rw [word?_blank (List.cons_ne_nil c []) hcs, List.reverse_singleton, List.singleton_append,
      hname]
  rw [hchars]
  exact cues?_cons hskip hnext

end Token

/-- A line that binds a name to a value, without its end. -/
def bindingLine (name : String) (v : Json) : List Char :=
  "var ".toList ++ (name.toList ++ (" = JSON.parse('".toList ++
    (quotedBody v.compact ++ "');".toList)))

theorem toList_binding (name : String) (v : Json) :
    (binding name v).toList = bindingLine name v ++ ['\n'] := by
  unfold binding bindingLine
  rw [bound_eq]
  simp only [String.toList_append, String.toList_ofList, List.append_assoc]
  rfl

/-- The tokens of such a line where it stands below another one. -/
def bindingCues (name : String) (v : Json) : List (Token × Bool) :=
  [(.word "var" false, true), (.word name false, false), (.mark "=", false),
    (.word "JSON" false, false), (.mark ".", false), (.word "parse" false, false),
    (.mark "(", false), (.text (Units.ofString v.compact), false), (.mark ")", false),
    (.mark ";", false)]

/-- **A line that binds a name** consists of ten tokens; the value is in one of them, as a text. -/
theorem cues?_bindingLine {name : String} (h : isBindable name = true) (v : Json) :
    cues? ('\n' :: bindingLine name v) = some (bindingCues name v) := by
  have hline : '\n' :: bindingLine name v = '\n' :: 'v' :: 'a' :: 'r' :: ' ' :: (name.toList ++
      ' ' :: '=' :: ' ' :: 'J' :: 'S' :: 'O' :: 'N' :: '.' :: 'p' :: 'a' :: 'r' :: 's' :: 'e' ::
      '(' :: '\'' :: (quotedBody v.compact ++ ['\'', ')', ';'])) := rfl
  have hvar (r : List Char) : cues? ('\n' :: 'v' :: 'a' :: 'r' :: ' ' :: r) =
      (cues? (' ' :: r)).map ((.word "var" false, true) :: ·) := cues?_cons rfl rfl
  have hassign (r : List Char) : cues? (' ' :: '=' :: ' ' :: r) =
      (cues? (' ' :: r)).map ((.mark "=", false) :: ·) := cues?_cons rfl rfl
  have hjson (r : List Char) : cues? (' ' :: 'J' :: 'S' :: 'O' :: 'N' :: '.' :: r) =
      (cues? ('.' :: r)).map ((.word "JSON" false, false) :: ·) := cues?_cons rfl rfl
  have hpoint (r : List Char) : cues? ('.' :: 'p' :: r) =
      (cues? ('p' :: r)).map ((.mark ".", false) :: ·) := cues?_cons rfl rfl
  have hparse (r : List Char) : cues? ('p' :: 'a' :: 'r' :: 's' :: 'e' :: '(' :: r) =
      (cues? ('(' :: r)).map ((.word "parse" false, false) :: ·) := cues?_cons rfl rfl
  have hopen (r : List Char) : cues? ('(' :: '\'' :: r) =
      (cues? ('\'' :: r)).map ((.mark "(", false) :: ·) := cues?_cons rfl rfl
  have htext (r : List Char) : cues? ('\'' :: (quotedBody v.compact ++ '\'' :: r)) =
      (cues? r).map ((.text (Units.ofString v.compact), false) :: ·) := by
    have hnext (r : List Char) : Token.next? ('\'' :: r) =
        (readLiteral? '\'' .plain #[] r).map fun p => (.text p.1, p.2) := rfl
    refine cues?_cons rfl ((hnext _).trans ?_)
    rw [readLiteral?_quotedBody (Json.printable_compact v)]
    rfl
  have hend : cues? [')', ';'] = some [(.mark ")", false), (.mark ";", false)] := rfl
  rw [hline, hvar, Token.cues?_name h, hassign, hjson, hpoint, hparse, hopen, htext, hend]
  rfl

/-! ## 2. The whole text -/

/-- The names that are bound for a script, with their values. -/
def bindings (view : ScriptView) (extras : Keyed Json) : List (String × Json) :=
  ("input", view.input) :: ("vars", view.vars) :: ("messages", view.messages) ::
    ("contextMessages", view.contextMessages) :: extras

/-- What stands before the bindings, without the end of its last line. -/
def opening : List Char := ("(function() \x7b\n" ++ logging).toList

/-- What stands behind the bindings, with the end of the last one's line. -/
def closing (mode : ScriptMode) (source : String) : List Char :=
  '\n' :: ("\ntry \x7b\n    var __value = " ++ asCallText mode source ++ ";\n"
    ++ "    return JSON.stringify(\x7b ok: true, "
    ++ "value: __value === undefined ? null : __value, logs: __logs \x7d);\n"
    ++ "\x7d catch (e) \x7b\n"
    ++ "    var __message = (e && e.message !== undefined) "
    ++ "? (e.name ? e.name + ': ' : '') + e.message : String(e);\n"
    ++ "    return JSON.stringify(\x7b ok: false, error: __message, logs: __logs \x7d);\n"
    ++ "\x7d\n\x7d)()").toList

theorem toList_bindingText (view : ScriptView) (extras : Keyed Json) :
    (bindingText view extras).toList =
      (bindings view extras).flatMap fun b => bindingLine b.1 b.2 ++ ['\n'] := by
  unfold bindingText bindings
  simp only [String.toList_append, String.toList_join, toList_binding, List.flatMap_cons,
    List.flatMap_map, List.append_assoc]

/-- The end of each line is taken for the beginning of the next. -/
theorem flatMap_line (bs : List (String × Json)) (rest : List Char) :
    '\n' :: (bs.flatMap (fun b => bindingLine b.1 b.2 ++ ['\n']) ++ rest) =
      bs.flatMap (fun b => '\n' :: bindingLine b.1 b.2) ++ '\n' :: rest := by
  induction bs with
  | nil => rfl
  | cons b bs ih =>
    rw [List.flatMap_cons, List.flatMap_cons, List.append_assoc, List.append_assoc,
      List.append_assoc, ← ih]
    rfl

theorem toList_wrapped (mode : ScriptMode) (source : String) (view : ScriptView)
    (extras : Keyed Json) : (wrapped mode source view extras).toList =
      opening ++ ((bindings view extras).flatMap (fun b => '\n' :: bindingLine b.1 b.2) ++
        closing mode source) := by
  have hline : "\n".toList = ['\n'] := rfl
  unfold closing
  rw [← flatMap_line]
  unfold wrapped opening
  simp only [String.toList_append, toList_bindingText, List.append_assoc, hline,
    List.cons_append, List.nil_append]

theorem cues?_opening : (cues? opening).isSome = true := by
  unfold opening logging
  rw [String.toList_append]
  -- the text is spelled out, since a long literal is slow to take apart
  repeat rw [show String.toList _ = _ from String.toList_ofList]
  decide +kernel

/-- **The tokens of lines that bind names** are those of one line after the other. -/
theorem cues?_lines {bs : List (String × Json)} (h : ∀ b ∈ bs, isBindable b.1 = true)
    (rest : List Char) :
    cues? (bs.flatMap (fun b => '\n' :: bindingLine b.1 b.2) ++ '\n' :: rest) =
      (cues? ('\n' :: rest)).map (bs.flatMap (fun b => bindingCues b.1 b.2) ++ ·) := by
  induction bs with
  | nil => exact Option.map_id'.symm
  | cons b bs ih =>
    obtain ⟨hb, hbs⟩ := List.forall_mem_cons.mp h
    rw [List.flatMap_cons, List.append_assoc, ← flatMap_line, cues?_line (cues?_bindingLine hb b.2),
      flatMap_line, ih hbs, Option.map_map, List.flatMap_cons]
    rfl

/-! ## 3. All values -/

/-- What holds of the expression that gives a script a copy of a value. -/
structure Sealed (v : Json) : Prop where
  /-- It is a call on one literal between single quotes. -/
  written : bound v = "JSON.parse('" ++ String.ofList (quotedBody v.compact) ++ "')"
  /-- The literal is the compact text with its backslashes guarded, and then its quotes. -/
  replaced : quotedBody v.compact = guarded '\'' (guarded '\\' v.compact.toList)
  /-- No line ends in it, and no other control stands in it. -/
  oneLine : Json.Printable (quotedBody v.compact) ∧
    '\n' ∉ quotedBody v.compact ∧ '\r' ∉ quotedBody v.compact
  /-- A reader of literals comes to its last quote, whatever follows, and has the compact text. -/
  literal : ∀ rest, readLiteral? '\'' .plain #[] (quotedBody v.compact ++ '\'' :: rest) =
    some (Units.ofString v.compact, rest)
  /-- No quote before closes it. -/
  stillOpen : ∀ cs, cs <+: quotedBody v.compact → readLiteral? '\'' .plain #[] cs = none
  /-- What was read is the compact text, character by character. -/
  text : (Units.ofString v.compact).toString? = some v.compact
  /-- What is made of it is what the value says, as far as it can be read. -/
  value : ∀ call receiver,
    Library.apply call .readJson receiver [.text (Units.ofString v.compact)] =
      if (Json.ofText? v.compact).isSome then JsonText.build (.ofJson v)
      else Machine.raiseError .form "malformed JSON"
  /-- A whole number says the float nearest to it. -/
  whole : ∀ i, v = .number (.integer i) → JsonText.Datum.ofJson v =
    .number (Numeral.signed (decide (i < 0)) (Numeral.scaled i.natAbs 0))
  /-- It can be read when it does not nest too deep and its floating-point numbers are read back. -/
  readable : (Json.Document.ofValue v).Fits Json.maxDepth →
    (∀ x, .real x ∈ (Json.Document.ofValue v).numbers → (Json.Number.real x).Legible) →
    (Json.ofText? v.compact).isSome = true

/-- **Values stay in their bindings.** Each is sealed in its expression; and the tokens of a script
are those of what stands around the bindings, which know nothing of the values, and ten for each
binding, of which the value is one, as a text. -/
theorem values_sealed : (∀ v, Sealed v) ∧
    ∃ front, cues? opening = some front ∧ ∀ mode source view extras,
      (∀ e ∈ extras, isBindable e.1 = true) →
      cues? (wrapped mode source view extras).toList = (cues? (closing mode source)).map fun back =>
        front ++ ((bindings view extras).flatMap (fun b => bindingCues b.1 b.2) ++ back) := by
  constructor
  · intro v
    have hprintable := printable_quotedBody (Json.printable_compact v)
    exact
      { written := bound_eq v
        replaced := quotedBody_eq v.compact
        oneLine := ⟨hprintable, hprintable.not_mem (by decide), hprintable.not_mem (by decide)⟩
        literal := readLiteral?_quotedBody (Json.printable_compact v)
        stillOpen := fun cs hcs => readLiteral?_prefix (Json.printable_compact v) hcs
        text := Units.toString?_ofString v.compact
        value := fun call receiver => Library.readJson_compact call receiver v
        whole := fun i hi => by rw [hi, JsonText.Datum.ofJson, JsonText.Datum.ofNumber_integer]
        readable := JsonText.isSome_ofText?_compact }
  · obtain ⟨front, hfront⟩ := Option.isSome_iff_exists.mp cues?_opening
    refine ⟨front, hfront, fun mode source view extras hextras => ?_⟩
    have hnames : ∀ b ∈ bindings view extras, isBindable b.1 = true := by
      unfold bindings
      simp only [List.forall_mem_cons]
      exact ⟨by decide, by decide, by decide, by decide, hextras⟩
    rw [toList_wrapped]
    unfold closing
    rw [← flatMap_line, cues?_line hfront, flatMap_line, cues?_lines hnames, Option.map_map]
    rfl

/-- A text that would leave its literal if either a quote or a backslash of it were not guarded. -/
def breakout : Json := .string "\\'); log('"

/-- A view that says it in two places. -/
def breakoutView : ScriptView where
  input := breakout
  vars := .ofMembers [("\\'); log('", breakout)]
  messages := .array []
  contextMessages := .array []

theorem breakout_sealed : (∀ e ∈ [("reply", breakout)], isBindable e.1 = true) ∧ Sealed breakout ∧
    ∃ front, cues? opening = some front ∧
      cues? (wrapped .function "return reply;" breakoutView [("reply", breakout)]).toList =
        (cues? (closing .function "return reply;")).map fun back =>
          front ++ ((bindings breakoutView [("reply", breakout)]).flatMap
            (fun b => bindingCues b.1 b.2) ++ back) := by
  have hnames : ∀ e ∈ [("reply", breakout)], isBindable e.1 = true :=
    List.forall_mem_singleton.mpr (by decide)
  obtain ⟨hsealed, front, hfront, htokens⟩ := values_sealed
  exact ⟨hnames, hsealed breakout, front, hfront, htokens _ _ _ _ hnames⟩

end Workgraph.Script
