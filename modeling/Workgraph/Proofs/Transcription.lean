import Workgraph.Proofs.Legibility

/-!
# Values that are read as they were written

* `spelled` are the characters of a value's compact text;
* **a value that was spelled is read as itself** (`readValue?_spelled`), by induction on the value:
  what the reader does after one item of an array or one member of an object (`afterItem`,
  `afterMember`) goes along the rest of its list. The fuel is bounded by the characters that are
  left;
* **what is read fits** (`Document.fits_of_ofText?`): it does not nest deeper than is allowed and
  its numbers are ones that a text can say.
-/

namespace Workgraph.Json

variable {rest : Rest}

/-! ## 1. The characters of a value -/

mutual

/-- The characters of a value without blanks. -/
def spelled : Json → Rest
  | .null => ['n', 'u', 'l', 'l']
  | .bool true => ['t', 'r', 'u', 'e']
  | .bool false => ['f', 'a', 'l', 's', 'e']
  | .number n => n.text.toList
  | .string s => (quoted s).toList
  | .array [] => ['[', ']']
  | .array (v :: vs) => '[' :: (spelled v ++ spelledItems vs)
  | .object [] => ['\x7b', '\x7d']
  | .object ((k, v) :: ms) =>
    '\x7b' :: ((quoted k).toList ++ ':' :: (spelled v ++ spelledMembers ms))

/-- The characters of the items after the first, with the bracket that closes them. -/
def spelledItems : List Json → Rest
  | [] => [']']
  | v :: vs => ',' :: (spelled v ++ spelledItems vs)

/-- The characters of the members after the first, with the brace that closes them. -/
def spelledMembers : List (String × Json) → Rest
  | [] => ['\x7d']
  | (k, v) :: ms => ',' :: ((quoted k).toList ++ ':' :: (spelled v ++ spelledMembers ms))

end

mutual

theorem toList_addCompact : ∀ (v : Json) (out : String),
    (addCompact out v).toList = out.toList ++ spelled v
  | .null, out => String.toList_append ..
  | .bool true, out => String.toList_append ..
  | .bool false, out => String.toList_append ..
  | .number _, out => String.toList_append ..
  | .string _, out => String.toList_append ..
  | .array [], out => by simp [addCompact, addItems, spelled]
  | .array (v :: vs), out => by
    rw [addCompact, addItems, toList_addItems, toList_addCompact v]
    simp [spelled]
  | .object [], out => by simp [addCompact, addMembers, spelled]
  | .object ((k, v) :: ms), out => by
    rw [addCompact, addMembers, toList_addMembers, toList_addCompact v]
    simp [spelled]

theorem toList_addItems : ∀ (vs : List Json) (out : String),
    (addItems out false vs ++ "]").toList = out.toList ++ spelledItems vs
  | [], out => String.toList_append ..
  | v :: vs, out => by
    rw [addItems, toList_addItems vs, toList_addCompact v]
    simp [spelledItems]

theorem toList_addMembers : ∀ (ms : List (String × Json)) (out : String),
    (addMembers out false ms ++ "\x7d").toList = out.toList ++ spelledMembers ms
  | [], out => String.toList_append ..
  | (k, v) :: ms, out => by
    rw [addMembers, toList_addMembers ms, toList_addCompact v]
    simp [spelledMembers]

end

/-- Compact text is spelled character by character. -/
theorem toList_compact (v : Json) : v.compact.toList = spelled v := toList_addCompact v ""

/-! ## 2. Reading what was spelled -/

/-- What is read begins neither with a blank nor with a closing bracket. -/
theorem begins_of_readValue? {fuel depth : Nat} {cs : Rest} {found : Document × Rest}
    (h : readValue? fuel depth cs = some found) :
    ∃ c r, cs = c :: r ∧ isGap c = false ∧ c ≠ ']' := by
  cases fuel with
  | zero => cases h
  | succ fuel =>
    rw [readValue?.eq_def] at h
    dsimp only at h
    split at h
    case h_8 =>
      obtain ⟨⟨l, r⟩, hl, -⟩ := Option.map_eq_some_iff.mp h
      obtain ⟨c, r, rfl, hc⟩ := isDigit_of_readLiteral? hl
      refine ⟨c, r, rfl, ?_, ?_⟩
      · by_contra hgap
        rw [Bool.not_eq_false, isGap] at hgap
        simp only [Bool.or_eq_true, decide_eq_true_eq] at hgap
        rcases hgap with ((rfl | rfl) | rfl) | rfl <;> exact absurd hc (by decide)
      · rintro rfl
        exact absurd hc (by decide)
    all_goals exact ⟨_, _, rfl, by decide, by decide⟩

theorem skipGap_of_readValue? {fuel depth : Nat} {cs : Rest} {found : Document × Rest}
    (h : readValue? fuel depth cs = some found) : skipGap cs = cs := by
  obtain ⟨c, r, rfl, hc, -⟩ := begins_of_readValue? h
  exact List.dropWhile_cons_of_neg (by simp [hc])

theorem readValue?_bracket (fuel depth : Nat) (r : Rest) : readValue? (fuel + 1) depth ('[' :: r) =
    match skipGap r with
    | ']' :: r => some (if depth = 0 then .unreadable else .array [], r)
    | r => readItems? fuel depth [] r := by
  rw [readValue?.eq_def]
  rfl

/-- An array that does not end at once is read item by item. -/
theorem readValue?_items {fuel fuel' depth depth' : Nat} {r : Rest} {found : Document × Rest}
    (h : readValue? fuel' depth' r = some found) :
    readValue? (fuel + 1) depth ('[' :: r) = readItems? fuel depth [] r := by
  have hgap := skipGap_of_readValue? h
  obtain ⟨c, r, rfl, -, hc⟩ := begins_of_readValue? h
  rw [readValue?_bracket, hgap]
  split
  · rename_i heq
    cases heq
    exact absurd rfl hc
  · rfl

/-- An object that begins with a key is read member by member. -/
theorem readValue?_members (fuel depth : Nat) (key : String) (r : Rest) :
    readValue? (fuel + 1) depth ('\x7b' :: ((quoted key).toList ++ r)) =
      readMembers? fuel depth true [] ((quoted key).toList ++ r) := by
  rw [toList_quoted, readValue?.eq_def]
  rfl

/-- What is read of an array after one of its items. -/
def afterItem (fuel depth : Nat) (acc : List Document) (r : Rest) : Option (Document × Rest) :=
  match skipGap r with
  | ',' :: r => readItems? fuel depth acc r
  | ']' :: r => some (if depth = 0 then .unreadable else .array acc.reverse, r)
  | _ => none

/-- What is read of an object after one of its members. -/
def afterMember (fuel depth : Nat) (acc : List (String × Document)) (r : Rest) :
    Option (Document × Rest) :=
  match skipGap r with
  | ',' :: r => readMembers? fuel depth true acc r
  | '\x7d' :: r => some (if depth = 0 then .unreadable else .object acc.reverse, r)
  | _ => none

theorem readItems?_succ (fuel depth : Nat) (acc : List Document) (cs : Rest) :
    readItems? (fuel + 1) depth acc cs = (readValue? fuel (depth - 1) (skipGap cs)).bind fun p =>
      afterItem fuel depth (p.1 :: acc) p.2 := by
  rw [readItems?]
  cases readValue? fuel (depth - 1) (skipGap cs) <;> rfl

theorem readMembers?_succ (fuel depth : Nat) (acc : List (String × Document)) (key : String)
    (r : Rest) : readMembers? (fuel + 1) depth true acc ((quoted key).toList ++ ':' :: r) =
      (readValue? fuel (depth - 1) (skipGap r)).bind fun p =>
        afterMember fuel depth ((key, p.1) :: acc) p.2 := by
  have hkey : readString? true [] (escapedText key ++ '"' :: ':' :: r) =
      some (some key, ':' :: r) := by
    rw [escapedText, readString?_escapedText, List.reverse_nil, List.nil_append,
      String.ofList_toList]
  have hquote (cs : Rest) : skipGap ('"' :: cs) = '"' :: cs := rfl
  have hcolon : skipGap (':' :: r) = ':' :: r := rfl
  rw [toList_quoted, List.cons_append, List.append_assoc, List.singleton_append, readMembers?,
    hquote]
  split
  · rename_i heq
    cases heq
    rw [hkey]
    dsimp only
    rw [hcolon]
    split
    · rename_i heq
      cases heq
      cases readValue? fuel (depth - 1) (skipGap r) <;> rfl
    · rename_i hother
      exact absurd rfl (hother r)
  · rename_i hother
    exact absurd rfl (hother _)

theorem ends_spelledItems (vs : List Json) (rest : Rest) : Ends (spelledItems vs ++ rest) := by
  cases vs <;>
    · intro c hc
      cases hc
      decide

theorem ends_spelledMembers (ms : List (String × Json)) (rest : Rest) :
    Ends (spelledMembers ms ++ rest) := by
  cases ms <;>
    · intro c hc
      cases hc
      decide

theorem spelledItems_pos (vs : List Json) : 0 < (spelledItems vs).length := by
  cases vs <;> exact Nat.succ_pos _

theorem spelledMembers_pos (ms : List (String × Json)) : 0 < (spelledMembers ms).length := by
  cases ms <;> exact Nat.succ_pos _

open Document (ofValue ofValues ofEntries)

theorem spelled_pos {v : Json} (h : ∀ n ∈ (ofValue v).numbers, n.Legible) :
    0 < (spelled v).length := by
  cases v with
  | null => exact Nat.succ_pos _
  | bool b => cases b <;> exact Nat.succ_pos _
  | number n =>
    obtain ⟨c, r, htext, -⟩ := begins_of_readValue? (h n (List.mem_singleton_self n))
    rw [spelled, htext]
    exact Nat.succ_pos _
  | string s =>
    rw [spelled, toList_quoted]
    exact Nat.succ_pos _
  | array vs => cases vs <;> exact Nat.succ_pos _
  | object ms => cases ms <;> exact Nat.succ_pos _

mutual

/-- **A value that was spelled is read as itself**, whatever follows it. -/
theorem readValue?_spelled : ∀ (v : Json) {fuel depth : Nat} {rest : Rest},
    (ofValue v).depth ≤ depth → (∀ n ∈ (ofValue v).numbers, n.Legible) → Ends rest →
    (spelled v).length ≤ fuel → readValue? fuel depth (spelled v ++ rest) = some (ofValue v, rest)
  | .null, fuel + 1, _, _, _, _, _, _ => by rw [readValue?.eq_def]; rfl
  | .bool true, fuel + 1, _, _, _, _, _, _ => by rw [readValue?.eq_def]; rfl
  | .bool false, fuel + 1, _, _, _, _, _, _ => by rw [readValue?.eq_def]; rfl
  | .number n, fuel + 1, depth, rest, _, hlegible, hrest, _ =>
    Number.Legible.readValue? (hlegible n (List.mem_singleton_self n)) hrest fuel depth
  | .string s, fuel + 1, depth, rest, _, _, _, _ => by
    rw [spelled, toList_quoted, List.cons_append, List.append_assoc, List.singleton_append,
      readValue?.eq_def]
    change (readString? true [] (escapedText s ++ '"' :: rest)).map _ = _
    rw [escapedText, readString?_escapedText]
    simp [ofValue]
  | .array [], fuel + 1, depth + 1, _, _, _, _, _ => by rw [readValue?.eq_def]; rfl
  | .object [], fuel + 1, depth + 1, _, _, _, _, _ => by rw [readValue?.eq_def]; rfl
  | .array (v :: vs), fuel + 1, depth + 1, rest, hdepth, hlegible, hrest, hfuel => by
    obtain ⟨hv, hvs⟩ := List.forall_mem_cons.mp (Document.depth_array_le.mp hdepth)
    obtain ⟨hlegible, hlegibles⟩ :=
      List.forall_mem_cons.mp (Document.forall_numbers_array.mp hlegible)
    have hlength := spelledItems_pos vs
    have hpos := spelled_pos hlegible
    rw [spelled, List.length_cons, List.length_append] at hfuel
    obtain ⟨fuel, rfl⟩ := Nat.exists_eq_add_one_of_ne_zero (show fuel ≠ 0 by omega)
    have hread : readValue? fuel depth (spelled v ++ (spelledItems vs ++ rest)) = some (_, _) :=
      readValue?_spelled v hv hlegible (ends_spelledItems vs rest) (by omega)
    rw [spelled, List.cons_append, List.append_assoc, readValue?_items hread, readItems?_succ,
      skipGap_of_readValue? hread, Nat.add_sub_cancel, hread, Option.bind_some,
      afterItem_spelled vs _ hvs hlegibles (by omega)]
    rfl
  | .object ((k, v) :: ms), fuel + 1, depth + 1, rest, hdepth, hlegible, hrest, hfuel => by
    obtain ⟨hv, hms⟩ := List.forall_mem_cons.mp (Document.depth_object_le.mp hdepth)
    obtain ⟨hlegible, hlegibles⟩ :=
      List.forall_mem_cons.mp (Document.forall_numbers_object.mp hlegible)
    have hlength := spelledMembers_pos ms
    have hpos := spelled_pos hlegible
    rw [spelled, List.length_cons, List.length_append, List.length_cons, List.length_append]
      at hfuel
    obtain ⟨fuel, rfl⟩ := Nat.exists_eq_add_one_of_ne_zero (show fuel ≠ 0 by omega)
    have hread : readValue? fuel depth (spelled v ++ (spelledMembers ms ++ rest)) = some (_, _) :=
      readValue?_spelled v hv hlegible (ends_spelledMembers ms rest) (by omega)
    rw [spelled, List.cons_append, List.append_assoc, List.cons_append, List.append_assoc,
      readValue?_members, readMembers?_succ, skipGap_of_readValue? hread, Nat.add_sub_cancel, hread,
      Option.bind_some, afterMember_spelled ms _ hms hlegibles (by omega)]
    rfl
  | .array _, _, 0, _, hdepth, _, _, _ => absurd hdepth (Nat.not_succ_le_zero _)
  | .object _, _, 0, _, hdepth, _, _, _ => absurd hdepth (Nat.not_succ_le_zero _)
  | v, 0, _, _, _, hlegible, _, hfuel =>
    absurd hfuel (Nat.not_le_of_lt (spelled_pos hlegible))

theorem afterItem_spelled : ∀ (vs : List Json) {fuel depth : Nat} {rest : Rest}
    (acc : List Document), (∀ d ∈ ofValues vs, d.depth ≤ depth) →
    (∀ d ∈ ofValues vs, ∀ n ∈ d.numbers, n.Legible) → (spelledItems vs).length ≤ fuel + 1 →
    afterItem fuel (depth + 1) acc (spelledItems vs ++ rest) =
      some (.array (acc.reverse ++ ofValues vs), rest)
  | [], fuel, depth, rest, acc, _, _, _ => by
    rw [ofValues, List.append_nil]
    rfl
  | v :: vs, fuel, depth, rest, acc, hdepth, hlegible, hfuel => by
    obtain ⟨hv, hvs⟩ := List.forall_mem_cons.mp hdepth
    obtain ⟨hlegible, hlegibles⟩ := List.forall_mem_cons.mp hlegible
    have hlength := spelledItems_pos vs
    have hpos := spelled_pos hlegible
    rw [spelledItems, List.length_cons, List.length_append] at hfuel
    obtain ⟨fuel, rfl⟩ := Nat.exists_eq_add_one_of_ne_zero (show fuel ≠ 0 by omega)
    have hread : readValue? fuel depth (spelled v ++ (spelledItems vs ++ rest)) = some (_, _) :=
      readValue?_spelled v hv hlegible (ends_spelledItems vs rest) (by omega)
    rw [spelledItems, List.cons_append, List.append_assoc]
    change readItems? (fuel + 1) (depth + 1) acc _ = _
    rw [readItems?_succ, skipGap_of_readValue? hread, Nat.add_sub_cancel, hread, Option.bind_some,
      afterItem_spelled vs _ hvs hlegibles (by omega), List.reverse_cons, List.append_assoc]
    rfl

theorem afterMember_spelled : ∀ (ms : List (String × Json)) {fuel depth : Nat} {rest : Rest}
    (acc : List (String × Document)), (∀ m ∈ ofEntries ms, m.2.depth ≤ depth) →
    (∀ m ∈ ofEntries ms, ∀ n ∈ m.2.numbers, n.Legible) → (spelledMembers ms).length ≤ fuel + 1 →
    afterMember fuel (depth + 1) acc (spelledMembers ms ++ rest) =
      some (.object (acc.reverse ++ ofEntries ms), rest)
  | [], fuel, depth, rest, acc, _, _, _ => by
    rw [ofEntries, List.append_nil]
    rfl
  | (k, v) :: ms, fuel, depth, rest, acc, hdepth, hlegible, hfuel => by
    obtain ⟨hv, hms⟩ := List.forall_mem_cons.mp hdepth
    obtain ⟨hlegible, hlegibles⟩ := List.forall_mem_cons.mp hlegible
    have hlength := spelledMembers_pos ms
    have hpos := spelled_pos hlegible
    rw [spelledMembers, List.length_cons, List.length_append, List.length_cons,
      List.length_append] at hfuel
    obtain ⟨fuel, rfl⟩ := Nat.exists_eq_add_one_of_ne_zero (show fuel ≠ 0 by omega)
    have hread : readValue? fuel depth (spelled v ++ (spelledMembers ms ++ rest)) = some (_, _) :=
      readValue?_spelled v hv hlegible (ends_spelledMembers ms rest) (by omega)
    rw [spelledMembers, List.cons_append, List.append_assoc, List.cons_append, List.append_assoc]
    change readMembers? (fuel + 1) (depth + 1) true acc _ = _
    rw [readMembers?_succ, skipGap_of_readValue? hread, Nat.add_sub_cancel, hread,
      Option.bind_some, afterMember_spelled ms _ hms hlegibles (by omega), List.reverse_cons,
      List.append_assoc]
    rfl

end

/-! ## 3. What is read fits -/

namespace Document

/-- An array that is kept nests one deeper than its items. -/
theorem fits_kept_array {depth : Nat} {items : List Document}
    (h : ∀ d ∈ items, d.Fits (depth - 1)) :
    (if depth = 0 then unreadable else .array items).Fits depth := by
  cases depth with
  | zero => exact fits_unreadable 0
  | succ depth => exact fits_array.mpr ⟨depth, rfl, h⟩

theorem fits_kept_object {depth : Nat} {members : List (String × Document)}
    (h : ∀ m ∈ members, m.2.Fits (depth - 1)) :
    (if depth = 0 then unreadable else .object members).Fits depth := by
  cases depth with
  | zero => exact fits_unreadable 0
  | succ depth => exact fits_object.mpr ⟨depth, rfl, h⟩

theorem fits_literal (n : Nat) (l : Number.Literal) : l.document.Fits n := by
  unfold Number.Literal.document
  split
  · exact fits_number n (Number.isProper_of_number? ‹_›)
  · exact fits_unreadable n

end Document

open Document

mutual

theorem fits_of_readValue? : ∀ (fuel : Nat) {depth : Nat} {cs r : Rest} {d : Document},
    readValue? fuel depth cs = some (d, r) → d.Fits depth
  | fuel + 1, depth, cs, r, d, h => by
    rw [readValue?.eq_def] at h
    dsimp only at h
    split at h
    case h_1 =>
      split at h
      · cases h
        exact fits_kept_array fun d hd => absurd hd List.not_mem_nil
      · exact fits_of_readItems? fuel (fun d hd => absurd hd List.not_mem_nil) h
    case h_2 =>
      split at h
      · cases h
        exact fits_kept_object fun d hd => absurd hd List.not_mem_nil
      · exact fits_of_readMembers? fuel (fun d hd => absurd hd List.not_mem_nil) h
    case h_3 =>
      obtain ⟨⟨s, r'⟩, -, heq⟩ := Option.map_eq_some_iff.mp h
      cases s with
      | none =>
        cases heq
        exact fits_unreadable depth
      | some s =>
        cases heq
        exact fits_string depth s
    case h_4 | h_8 =>
      obtain ⟨⟨l, r'⟩, -, heq⟩ := Option.map_eq_some_iff.mp h
      obtain ⟨rfl, -⟩ := Prod.mk.inj heq
      exact fits_literal depth l
    all_goals
      obtain ⟨_, -, heq⟩ := Option.map_eq_some_iff.mp h
      cases heq
      exact ⟨Nat.zero_le _, List.forall_mem_nil _⟩

theorem fits_of_readItems? : ∀ (fuel : Nat) {depth : Nat} {acc : List Document} {cs r : Rest}
    {d : Document}, (∀ a ∈ acc, a.Fits (depth - 1)) →
    readItems? fuel depth acc cs = some (d, r) → d.Fits depth
  | fuel + 1, depth, acc, cs, r, d, hacc, h => by
    rw [readItems?_succ] at h
    obtain ⟨⟨d', r'⟩, hd', h⟩ := Option.bind_eq_some_iff.mp h
    have hacc' : ∀ a ∈ d' :: acc, a.Fits (depth - 1) :=
      List.forall_mem_cons.mpr ⟨fits_of_readValue? fuel hd', hacc⟩
    unfold afterItem at h
    split at h
    · exact fits_of_readItems? fuel hacc' h
    · cases h
      exact fits_kept_array fun a ha => hacc' a (List.mem_reverse.mp ha)
    · cases h

theorem fits_of_readMembers? : ∀ (fuel : Nat) {depth : Nat} {good : Bool}
    {acc : List (String × Document)} {cs r : Rest} {d : Document},
    (∀ m ∈ acc, m.2.Fits (depth - 1)) → readMembers? fuel depth good acc cs = some (d, r) →
    d.Fits depth
  | fuel + 1, depth, good, acc, cs, r, d, hacc, h => by
    rw [readMembers?] at h
    split at h
    case h_2 => cases h
    split at h
    case h_1 => cases h
    split at h
    case h_2 => cases h
    split at h
    case h_1 => cases h
    rename_i d' r' hd'
    have hacc' (key : String) : ∀ m ∈ (key, d') :: acc, m.2.Fits (depth - 1) :=
      List.forall_mem_cons.mpr ⟨fits_of_readValue? fuel hd', hacc⟩
    dsimp only at h
    split at h
    · exact fits_of_readMembers? fuel (hacc' _) h
    · cases h
      split_ifs
      · exact fits_kept_object fun m hm => hacc' _ m (List.mem_reverse.mp hm)
      · exact fits_unreadable depth
    · cases h

end

/-! ## 4. Texts -/

namespace Document

/-- **What a text says fits**: it does not nest deeper than is allowed. -/
theorem fits_of_ofText? {s : String} {d : Document} (h : ofText? s = some d) :
    d.Fits maxDepth := by
  unfold ofText? at h
  dsimp only at h
  split at h
  · rename_i hread
    split_ifs at h
    cases h
    exact fits_of_readValue? _ hread
  · cases h

/-- **The compact text of a value says the value**, as far as it fits and its floating-point numbers
are legible. -/
theorem ofText?_compact {v : Json} (hfits : (ofValue v).Fits maxDepth)
    (hlegible : ∀ x, .real x ∈ (ofValue v).numbers → (Number.real x).Legible) :
    ofText? v.compact = some (ofValue v) := by
  have hnumbers : ∀ n ∈ (ofValue v).numbers, n.Legible := fun n hn => by
    cases n with
    | integer i => exact Number.legible_integer (hfits.proper _ hn)
    | real x => exact hlegible x hn
  have hread : readValue? ((spelled v).length + 1) maxDepth (spelled v ++ []) =
      some (ofValue v, []) :=
    readValue?_spelled v hfits.depth_le hnumbers nofun (Nat.le_succ _)
  rw [List.append_nil] at hread
  unfold ofText?
  rw [toList_compact, skipGap_of_readValue? hread]
  dsimp only
  rw [hread]
  rfl

end Document

end Workgraph.Json
