import Workgraph.Json.Decode
import Workgraph.Proofs.Documents

/-!
# What is decoded again from what is written

A decoder may take many documents for one value; the encoder beside it writes one of them. A decoder
is *stable* when whatever it gives is written so that it is decoded as the same again.

* `Returns` says of a value that it is decoded from what writes it, and that this fits; `Stable`
  says so of everything that is decoded from a document that fits;
* `ReturnsAmong` and `StableAmong` say the same of records that are written as members among others;
* of the records, fields that hold texts and flags are always decoded again; only those with bounds
  or free values have to be known to come from a document.
-/

namespace Workgraph

/-! ## 1. Integers as floating-point numbers -/

namespace Binary64

theorem exponentBits_eq (x : Binary64) : x.exponentBits = x.bits.toNat / 2 ^ 52 % 2 ^ 11 := by
  unfold exponentBits
  rw [UInt64.toNat_and, UInt64.toNat_shiftRight, Nat.shiftRight_eq_div_pow]
  exact Nat.and_two_pow_sub_one_eq_mod _ 11

/-- A number of at most 64 binary digits is far from infinity. -/
theorem bitsOfNat_le {n : Nat} (h : n < 2 ^ 64) : bitsOfNat n ≤ 1087 * 2 ^ 52 := by
  have hlog : n < 2 ^ (n.log2 + 1) := Nat.lt_log2_self
  unfold bitsOfNat
  dsimp only [Nat.pow_eq]
  split_ifs with hzero hsmall
  · exact Nat.zero_le _
  · have hsignificand : n * 2 ^ (52 - n.log2) ≤ 2 ^ 53 := by
      calc n * 2 ^ (52 - n.log2) ≤ 2 ^ (n.log2 + 1) * 2 ^ (52 - n.log2) :=
            Nat.mul_le_mul_right _ hlog.le
        _ = 2 ^ 53 := by rw [← Nat.pow_add]; congr 1; omega
    have hexponent : (n.log2 + 1022) * 2 ^ 52 ≤ (52 + 1022) * 2 ^ 52 :=
      Nat.mul_le_mul_right _ (by omega)
    exact (Nat.add_le_add hexponent hsignificand).trans (by decide)
  -- Rounded up or not, the significand has at most 53 digits and its exponent is at most 63.
  all_goals
    have hlt : n.log2 < 64 := (Nat.log2_lt hzero).mpr h
    have hsignificand : n / 2 ^ (n.log2 - 52) < 2 ^ 53 := by
      refine Nat.div_lt_of_lt_mul ?_
      calc n < 2 ^ (n.log2 + 1) := hlog
        _ = 2 ^ (n.log2 - 52) * 2 ^ 53 := by rw [← Nat.pow_add]; congr 1; omega
    have hexponent : (n.log2 + 1022) * 2 ^ 52 ≤ (63 + 1022) * 2 ^ 52 :=
      Nat.mul_le_mul_right _ (by omega)
    refine (Nat.min_le_left ..).trans
      ((Nat.add_le_add hexponent ?_).trans (by decide : _ + 2 ^ 53 ≤ _))
  · exact hsignificand
  · exact hsignificand.le

theorem isFinite_ofInt {i : Int} (h : i.natAbs < 2 ^ 64) : (ofInt i).isFinite = true := by
  have hbits := bitsOfNat_le h
  unfold isFinite ofInt
  rw [bne_iff_ne, exponentBits_eq]
  dsimp only [Nat.pow_eq]
  rw [Nat.toUInt64_eq, UInt64.toNat_ofNat']
  split_ifs <;> omega

end Binary64

namespace Json

/-! ## 2. Single values -/

open Document (ofValue)

/-- What writes `a` is decoded as `a`, and fits. -/
structure Returns (decode : Decoder α) (encode : α → Json) (n : Nat) (a : α) : Prop where
  rereads (s : Source) : decode s (ofValue (encode a)) = some a
  fits : (ofValue (encode a)).Fits n

/-- What was decoded from a document that fits is decoded again from what writes it; `k` is how deep
this is at least. -/
def Stable (decode : Decoder α) (encode : α → Json) (k : Nat) : Prop :=
  ∀ (s : Source) (n : Nat) (d : Document) (a : α), k ≤ n → d.Fits n → decode s d = some a →
    Returns decode encode n a

variable {α β : Type} {decode : Decoder α} {encode : α → Json} {n k : Nat}

theorem returns_string (n : Nat) (s : String) : Returns Decoder.string .string n s :=
  ⟨fun _ => rfl, Document.fits_string n s⟩

theorem returns_natural {max : Nat} (hmax : max ≤ Width.natural64) {i : Nat} (h : i ≤ max) :
    Returns (Decoder.natural max) .ofNat n i := by
  refine ⟨fun s => ?_, Document.fits_number n ?_⟩
  · have hrange : (0 : Int) ≤ i ∧ (i : Int) ≤ max := by omega
    change (if (0 : Int) ≤ i ∧ (i : Int) ≤ max then some (i : Int).toNat else none) = some i
    rw [if_pos hrange, Int.toNat_natCast]
  · have hlow : Width.least64 ≤ (i : Int) := by unfold Width.least64; omega
    have hhigh : (i : Int) ≤ Width.natural64 := by omega
    exact Number.isProper_integer.mpr ⟨hlow, hhigh⟩

theorem stable_natural {max : Nat} (hmax : max ≤ Width.natural64) :
    Stable (Decoder.natural max) .ofNat 0 := by
  intro s n d a _ _ h
  unfold Decoder.natural at h
  split at h
  · split_ifs at h with hrange
    cases h
    exact returns_natural hmax (by omega)
  · cases h

theorem stable_integer (min max : Int) : Stable (Decoder.integer min max) .ofInt 0 := by
  intro s n d a _ hd h
  unfold Decoder.integer at h
  split at h
  · split_ifs at h with hrange
    cases h
    exact ⟨fun _ => if_pos hrange, hd⟩
  · cases h

theorem returns_real {x : Binary64} (h : x.isFinite = true) :
    Returns Decoder.real .ofReal n x := by
  have hvalue : ofReal x = .number (.real x) := if_pos h
  refine ⟨fun s => ?_, ?_⟩
  · rw [hvalue]
    rfl
  · rw [hvalue]
    exact Document.fits_number n h

/-- An integer that a text can say is far from infinity as floating-point number. -/
theorem stable_real : Stable Decoder.real .ofReal 0 := by
  intro s n d x _ hd h
  unfold Decoder.real at h
  split at h
  · cases h
    have hproper := Number.isProper_integer.mp (hd.proper _ (List.mem_singleton_self _))
    rw [Width.least64, Width.natural64] at hproper
    exact returns_real (Binary64.isFinite_ofInt (by omega))
  · cases h
    exact returns_real (hd.proper _ (List.mem_singleton_self _))
  · cases h

/-- An entry of a table is found under its name. -/
theorem returns_choice {table : List (String × α)} {name : α → String} {a : α}
    (h : Decoder.entry? table (name a) = some a) :
    Returns (Decoder.choice table) (fun a => .string (name a)) n a :=
  ⟨fun _ => h, Document.fits_string n (name a)⟩

theorem exists_of_mapM {f : α → Option β} {as : List α} {bs : List β} (h : as.mapM f = some bs) :
    ∀ b ∈ bs, ∃ a ∈ as, f a = some b := by
  induction as generalizing bs with
  | nil =>
    cases h
    exact fun b hb => absurd hb List.not_mem_nil
  | cons a as ih =>
    rw [List.mapM_cons] at h
    obtain ⟨b, hb, h⟩ := Option.bind_eq_some_iff.mp h
    obtain ⟨bs, hbs, h⟩ := Option.bind_eq_some_iff.mp h
    cases h
    refine List.forall_mem_cons.mpr ⟨⟨a, List.mem_cons_self .., hb⟩, fun b hb => ?_⟩
    obtain ⟨a, ha, hab⟩ := ih hbs b hb
    exact ⟨a, List.mem_cons_of_mem _ ha, hab⟩

theorem mapM_map_eq_some {f : β → Option α} {g : α → β} {as : List α}
    (h : ∀ a ∈ as, f (g a) = some a) : (as.map g).mapM f = some as := by
  induction as with
  | nil => rfl
  | cons a as ih =>
    obtain ⟨ha, has⟩ := List.forall_mem_cons.mp h
    rw [List.map_cons, List.mapM_cons, ha, ih has]
    rfl

theorem returns_list {as : List α} (h : ∀ a ∈ as, Returns decode encode n a) :
    Returns (.list decode) (.ofList encode) (n + 1) as := by
  refine ⟨fun s => ?_, Document.fits_array.mpr ⟨n, rfl, fun d hd => ?_⟩⟩
  · change (Document.ofValues (as.map encode)).mapM (decode s) = some as
    rw [Document.ofValues_eq_map, List.map_map]
    exact mapM_map_eq_some fun a ha => (h a ha).rereads s
  · rw [Document.ofValues_eq_map, List.map_map] at hd
    obtain ⟨a, ha, rfl⟩ := List.mem_map.mp hd
    exact (h a ha).fits

theorem returns_strings (n : Nat) (ss : List String) :
    Returns (.list Decoder.string) .ofStrings (n + 1) ss :=
  returns_list fun s _ => returns_string n s

theorem Stable.list (h : Stable decode encode k) :
    Stable (.list decode) (.ofList encode) (k + 1) := by
  intro s n d as hn hd hdecode
  cases d with
  | array items =>
    obtain ⟨m, rfl, hitems⟩ := Document.fits_array.mp hd
    refine returns_list fun a ha => ?_
    obtain ⟨item, hitem, hdecoded⟩ := exists_of_mapM hdecode a ha
    exact h s m item a (Nat.le_of_succ_le_succ hn) (hitems item hitem) hdecoded
  | _ => cases hdecode

theorem Decoder.optional_of_ne_null {d : Document} (h : d ≠ .null) (s : Source) :
    Decoder.optional decode s d = (decode s d).map some := by
  unfold optional
  split
  · exact absurd rfl h
  · rfl

theorem returns_none (n : Nat) : Returns (.optional decode) (.ofOption encode) n none :=
  ⟨fun _ => rfl, Document.fits_null n⟩

/-- A decoder that takes no null tells what is absent from what is there. -/
theorem Stable.optional (h : Stable decode encode k) (hnull : ∀ s, decode s .null = none) :
    Stable (.optional decode) (.ofOption encode) k := by
  intro s n d o hn hd hdecode
  by_cases hd' : d = .null
  · subst hd'
    cases hdecode
    exact returns_none n
  · rw [Decoder.optional_of_ne_null hd'] at hdecode
    obtain ⟨a, ha, rfl⟩ := Option.map_eq_some_iff.mp hdecode
    have hreturns := h s n d a hn hd ha
    refine ⟨fun s' => ?_, hreturns.fits⟩
    have hne : ofValue (encode a) ≠ .null := fun hnil => by
      have hreread := hreturns.rereads s'
      rw [hnil, hnull] at hreread
      cases hreread
    rw [ofOption, Decoder.optional_of_ne_null hne, hreturns.rereads s', Option.map_some]

/-- A free value that may be absent is never null: null says that it is absent. -/
theorem stable_optional_value : Stable (.optional .value) (.ofOption id) 0 := by
  intro s n d o _ hd hdecode
  by_cases hd' : d = .null
  · subst hd'
    cases hdecode
    exact returns_none n
  · rw [Decoder.optional_of_ne_null hd'] at hdecode
    obtain ⟨v, hv, rfl⟩ := Option.map_eq_some_iff.mp hdecode
    refine ⟨fun s' => ?_, Document.Fits.of_value? d hd hv⟩
    have hne : ofValue v ≠ .null := fun hnull => by
      cases v with
      | null => exact hd' (Document.eq_null_of_value? hv)
      | _ => cases hnull
    rw [ofOption, id, Decoder.optional_of_ne_null hne]
    exact congrArg (Option.map some) (Document.value?_again d hv)

/-! ## 3. Fields -/

/-- What a document says about a field that it may leave out. -/
def Field.said : Option Json → Field
  | none => .missing
  | some v => .given (ofValue v)

/-- What is said about a field fits. -/
def Field.Fits (n : Nat) : Field → Prop
  | .given d => d.Fits n
  | _ => True

variable {s : Source} {f : Field} {a : α}

theorem Stable.required (h : Stable decode encode k) (hk : k ≤ n) (hf : f.Fits n)
    (hdecode : f.required decode s = some a) : Returns decode encode n a := by
  cases f with
  | given d => exact h s n d a hk hf hdecode
  | _ => cases hdecode

theorem Stable.getD (h : Stable decode encode k) (hk : k ≤ n) {fallback : α}
    (hfallback : Returns decode encode n fallback) (hf : f.Fits n)
    (hdecode : f.getD decode fallback s = some a) : Returns decode encode n a := by
  cases f with
  | given d => exact h s n d a hk hf hdecode
  | _ =>
    cases hdecode
    exact hfallback

theorem Stable.omittable {o : Option α} (h : Stable (.optional decode) (.ofOption encode) k)
    (hk : k ≤ n) (hf : f.Fits n) (hdecode : f.omittable decode s = some o) :
    Returns (.optional decode) (.ofOption encode) n o := by
  cases f with
  | given d => exact h s n d o hk hf hdecode
  | _ =>
    cases hdecode
    exact returns_none n

/-- What a record says about its fields is said inside the record. -/
theorem fits_of_mem_fields? {names : List String} {d : Document} (hd : d.Fits (n + 1))
    {fs : List Field} (hfs : fields? names d = some fs) : ∀ f ∈ fs, f.Fits n := by
  intro f hf
  unfold fields? at hfs
  split at hfs
  · rename_i members
    obtain ⟨m, hm, hmembers⟩ := Document.fits_object.mp hd
    cases hm
    obtain ⟨name, -, hname⟩ := exists_of_mapM hfs f hf
    split at hname
    · cases hname
      trivial
    · rename_i d' hd'
      cases hname
      have hmem : d' ∈ membersUnder name members := hd' ▸ List.mem_cons_self ..
      obtain ⟨e, he, rfl⟩ := List.mem_map.mp hmem
      exact hmembers e (List.mem_of_mem_filter he)
    · cases hname
  · rename_i items
    obtain ⟨m, hm, hitems⟩ := Document.fits_array.mp hd
    cases hm
    split_ifs at hfs
    cases hfs
    rcases List.mem_append.mp hf with hf | hf
    · obtain ⟨d', hd', rfl⟩ := List.mem_map.mp hf
      exact hitems d' hd'
    · rw [List.eq_of_mem_replicate hf]
      trivial
  · cases hfs

/-! ## 4. Members -/

/-- Members that say something: under each of some keys they hold one value, or none. -/
def Says (members : List (String × Document)) (entries : List (String × Option Json)) : Prop :=
  ∀ e ∈ entries, membersUnder e.1 members = (e.2.map ofValue).toList

theorem fields?_of_says {members : List (String × Document)} {entries : List (String × Option Json)}
    (h : Says members entries) :
    fields? (entries.map (·.1)) (.object members) = some (entries.map fun e => .said e.2) := by
  unfold fields?
  dsimp only
  induction entries with
  | nil => rfl
  | cons e entries ih =>
    obtain ⟨he, hentries⟩ := List.forall_mem_cons.mp h
    rw [List.map_cons, List.mapM_cons, he, ih hentries]
    obtain ⟨k, v⟩ := e
    cases v <;> rfl

/-- Members that hold all of some values, each under its key. -/
def Holds (members : List (String × Document)) (entries : List (String × Json)) : Prop :=
  Says members (entries.map fun e => (e.1, some e.2))

/-- Members that are left out do not matter to the others. -/
theorem membersUnder_filter {p : String × Document → Bool} {key : String}
    (h : ∀ d, p (key, d) = true) (ms : List (String × Document)) :
    membersUnder key (ms.filter p) = membersUnder key ms := by
  unfold membersUnder
  rw [List.filter_filter]
  congr 1
  refine List.filter_congr fun m _ => ?_
  by_cases hkey : m.1 = key
  · rw [← hkey] at h
    simp [h m.2]
  · simp [hkey]

theorem Holds.append_iff {ms : List (String × Document)} {es es' : List (String × Json)} :
    Holds ms (es ++ es') ↔ Holds ms es ∧ Holds ms es' := by
  unfold Holds Says
  rw [List.map_append, List.forall_mem_append]

theorem Holds.filter {ms : List (String × Document)} {es : List (String × Json)} (h : Holds ms es)
    {p : String × Document → Bool} (hp : ∀ k ∈ es.map (·.1), ∀ d, p (k, d) = true) :
    Holds (ms.filter p) es := by
  intro e he
  obtain ⟨e', he', rfl⟩ := List.mem_map.mp he
  rw [membersUnder_filter (hp e'.1 (List.mem_map_of_mem he')), h _ he]

theorem membersUnder_ofEntries {m : Keyed Json} (h : m.Ascending) (k : String) :
    membersUnder k (Document.ofEntries m) = ((m.get? k).map ofValue).toList := by
  have hkey : ((fun e : String × Document => decide (e.1 = k)) ∘
      fun e : String × Json => (e.1, ofValue e.2)) = fun e => decide (e.1 = k) := rfl
  unfold membersUnder
  rw [Document.ofEntries_eq_map, List.filter_map, hkey, List.map_map]
  change (m.filter fun e => e.1 = k).map (ofValue ∘ Prod.snd) = _
  rw [← List.map_map, Keyed.filter_key h.nodup]
  cases m.get? k <;> rfl

/-- An object holds the members it was made of. -/
theorem holds_ofList {es : List (String × Json)} (hnodup : (es.map (·.1)).Nodup) :
    Holds (Document.ofEntries (Keyed.ofList es)) es := by
  intro e he
  obtain ⟨e', he', rfl⟩ := List.mem_map.mp he
  rw [membersUnder_ofEntries (Keyed.ascending_ofList es), Keyed.get?_ofList hnodup,
    Keyed.get?_of_mem hnodup he']

/-- All that an object was made of is readable. -/
theorem isReadable_of_mem_ofEntries {es : List (String × Json)} {m : String × Document}
    (h : m ∈ Document.ofEntries es) : m.2.isReadable = true := by
  rw [Document.ofEntries_eq_map] at h
  obtain ⟨e, -, rfl⟩ := List.mem_map.mp h
  exact Document.isReadable_ofValue e.2

/-! ## 5. Records -/

/-- What writes `b` among other members is decoded as `b`, and fits. -/
structure ReturnsAmong (decode : Decoder β) (members : β → List (String × Json)) (n : Nat) (b : β) :
    Prop where
  rereads (s : Source) {ms : List (String × Document)} (hms : Holds ms (members b)) :
    decode s (.object ms) = some b
  fits : ∀ e ∈ members b, (ofValue e.2).Fits n

/-- What was decoded from a document that fits is decoded again from what writes it among other
members. -/
def StableAmong (decode : Decoder β) (members : β → List (String × Json)) (k : Nat) : Prop :=
  ∀ (s : Source) (n : Nat) (d : Document) (b : β), k ≤ n → d.Fits (n + 1) → decode s d = some b →
    ReturnsAmong decode members n b

variable {members : β → List (String × Json)} {b : β}

/-- A record is decoded again when each of its fields is. -/
theorem ReturnsAmong.of_fields {names : List String} {build : Source → List Field → Option β}
    (hnames : (members b).map (·.1) = names)
    (hbuild : ∀ s : Source, build s ((members b).map fun e => .given (ofValue e.2)) = some b)
    (hfits : ∀ e ∈ members b, (ofValue e.2).Fits n) :
    ReturnsAmong (fun s d => (fields? names d).bind (build s)) members n b := by
  refine ⟨fun s ms hms => ?_, hfits⟩
  have hfields := fields?_of_says hms
  rw [List.map_map, List.map_map] at hfields
  change fields? ((members b).map (·.1)) _ = _ at hfields
  rw [hnames] at hfields
  rw [hfields]
  exact hbuild s

theorem StableAmong.of_fields {names : List String} {build : Source → List Field → Option β}
    (h : ∀ (s : Source) (n : Nat) (fs : List Field) (b : β), k ≤ n → (∀ f ∈ fs, f.Fits n) →
      build s fs = some b → (members b).map (·.1) = names ∧
        (∀ s' : Source, build s' ((members b).map fun e => .given (ofValue e.2)) = some b) ∧
        ∀ e ∈ members b, (ofValue e.2).Fits n) :
    StableAmong (fun s d => (fields? names d).bind (build s)) members k := by
  intro s n d b hk hd hdecode
  obtain ⟨fs, hfs, hbuild⟩ := Option.bind_eq_some_iff.mp hdecode
  obtain ⟨hnames, hagain, hfits⟩ := h s n fs b hk (fits_of_mem_fields? hd hfs) hbuild
  exact .of_fields hnames hagain hfits

theorem StableAmong.of_forall {decode : Decoder β}
    (h : ∀ (n : Nat) (b : β), ReturnsAmong decode members (n + k) b) :
    StableAmong decode members k := by
  intro s n d b hk _ _
  obtain ⟨m, rfl⟩ := Nat.exists_eq_add_of_le' hk
  exact h m b

theorem StableAmong.map {decode : Decoder α} {c : α → β} {members' : α → List (String × Json)}
    (h : StableAmong decode members' k) (hmembers : ∀ a, members (c a) = members' a) :
    StableAmong (fun s d => (decode s d).map c) members k := by
  intro s n d b hk hd hdecode
  obtain ⟨a, ha, rfl⟩ := Option.map_eq_some_iff.mp hdecode
  have hreturns := h s n d a hk hd ha
  refine ⟨fun s' ms hms => ?_, ?_⟩
  · rw [hmembers] at hms
    rw [hreturns.rereads s' hms, Option.map_some]
  · rw [hmembers]
    exact hreturns.fits

/-- A record whose names differ is decoded again from the object of its members. -/
theorem ReturnsAmong.returns {decode : Decoder β} (h : ReturnsAmong decode members n b)
    (hnodup : ((members b).map (·.1)).Nodup) :
    Returns decode (fun b => .ofMembers (members b)) (n + 1) b :=
  ⟨fun s => h.rereads s (holds_ofList hnodup), Document.fits_ofMembers h.fits⟩

theorem StableAmong.stable {decode : Decoder β} (h : StableAmong decode members k)
    (hnodup : ∀ b, ((members b).map (·.1)).Nodup) :
    Stable decode (fun b => .ofMembers (members b)) (k + 1) := by
  intro s n d b hk hd hdecode
  obtain ⟨m, rfl⟩ := Nat.exists_eq_add_of_le' (Nat.one_le_of_lt hk)
  exact (h s m d b (Nat.le_of_succ_le_succ hk) hd hdecode).returns (hnodup b)

end Json

end Workgraph
