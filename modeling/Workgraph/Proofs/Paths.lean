import Mathlib.Data.List.Infix
import Mathlib.Data.List.TakeWhile
import Workgraph.Json.Path

/-!
# Reading and writing along paths

What a path reads after a value was put at the end of another one, in a value of any shape. Two
paths are compared by their segments: one leads beyond the other, stops above its end, or parts
from it after some segments that they share.

* `Malformed` says which paths have no segments; nothing is read or written along them.
* `ReadsAfterWrite` is the answer of a path in each of the three cases. Where two paths part, the
  old answer is still there if only objects were met on the way (`ObjectsAlong`), and nothing if
  something else had to make room for an object.
* `put` writes in place and looks before each step whether there is an object to step into. Its
  looks never fail (`put_eq`), and a path that is malformed leaves the value as it was.
* `setPath_lawful` is the main result.
-/

namespace Workgraph.Json

/-! ## 1. Paths without segments -/

/-- The pieces of a path without the blanks around them. -/
def pieces (path : String) : List String :=
  (splitOn '.' path.toList).map fun cs => Text.trim (String.ofList cs)

/-- A path that is blank or has a blank segment. -/
def Malformed (path : String) : Prop :=
  Text.isAllBlank path = true ∨ ∃ piece ∈ splitOn '.' path.toList, piece.all Text.isBlank = true

instance (path : String) : Decidable (Malformed path) := inferInstanceAs (Decidable (_ ∨ _))

/-- Only blanks are trimmed to nothing. -/
theorem trim_eq_empty_iff (cs : List Char) :
    Text.trim (String.ofList cs) = "" ↔ cs.all Text.isBlank = true := by
  have hempty (ds : List Char) : String.ofList ds = "" ↔ ds = [] := by
    rw [← String.toList_inj, String.toList_ofList, String.toList_empty]
  unfold Text.trim Text.dropEnd Text.dropStart
  rw [hempty, List.reverse_eq_nil_iff, List.dropWhile_eq_nil_iff, String.toList_ofList,
    List.all_eq_true]
  constructor
  · intro h c hc
    by_contra hblank
    -- a character that is not blank is still there when the blanks before it are gone
    have hmem : c ∈ cs.dropWhile Text.isBlank := by
      rw [← List.takeWhile_append_dropWhile (p := Text.isBlank) (l := cs)] at hc
      rcases List.mem_append.mp hc with hc | hc
      · exact absurd (List.mem_takeWhile_imp hc) hblank
      · exact hc
    exact hblank (h c (List.mem_reverse.mpr hmem))
  · intro h c hc
    exact h c (List.dropWhile_subset _ (List.mem_reverse.mp hc))

theorem empty_mem_pieces_iff (path : String) :
    "" ∈ pieces path ↔ ∃ piece ∈ splitOn '.' path.toList, piece.all Text.isBlank = true := by
  unfold pieces
  rw [List.mem_map]
  simp only [trim_eq_empty_iff]

/-- A path is malformed for one of two reasons, or it is cut into its pieces. -/
theorem segments_cases (path : String) :
    (Malformed path ∧ (segments path = .error (.badPath path .blank) ∨
      segments path = .error (.badPath path .blankSegment))) ∨
    (¬ Malformed path ∧ segments path = .ok (pieces path)) := by
  have hpieces : ((splitOn '.' path.toList).map fun cs => Text.trim (String.ofList cs)) =
    pieces path := rfl
  unfold segments
  rw [hpieces]
  dsimp only
  split
  · next hblank => exact Or.inl ⟨Or.inl hblank, Or.inl rfl⟩
  · next hblank =>
    split
    · next hmem => exact Or.inl ⟨Or.inr ((empty_mem_pieces_iff path).mp hmem), Or.inr rfl⟩
    · next hmem =>
      refine Or.inr ⟨?_, rfl⟩
      rintro (h | h)
      · exact hblank h
      · exact hmem ((empty_mem_pieces_iff path).mpr h)

theorem segments_of_malformed {path : String} (h : Malformed path) :
    segments path = .error (.badPath path .blank) ∨
      segments path = .error (.badPath path .blankSegment) := by
  rcases segments_cases path with ⟨-, herror⟩ | ⟨hformed, -⟩
  · exact herror
  · exact absurd h hformed

theorem segments_eq_ok_iff {path : String} {ss : List String} :
    segments path = .ok ss ↔ ¬ Malformed path ∧ ss = pieces path := by
  rcases segments_cases path with ⟨h, herror | herror⟩ | ⟨h, hok⟩
  · rw [herror]
    exact ⟨nofun, fun hformed => absurd h hformed.1⟩
  · rw [herror]
    exact ⟨nofun, fun hformed => absurd h hformed.1⟩
  · rw [hok, Except.ok.injEq]
    exact ⟨fun heq => ⟨h, heq.symm⟩, fun heq => heq.2.symm⟩

theorem splitOn_ne_nil (sep : Char) (cs : List Char) : splitOn sep cs ≠ [] := by
  induction cs with
  | nil => exact List.cons_ne_nil _ _
  | cons c cs _ =>
    unfold splitOn
    split
    · exact List.cons_ne_nil _ _
    · split <;> exact List.cons_ne_nil _ _

theorem pieces_ne_nil (path : String) : pieces path ≠ [] :=
  fun h => splitOn_ne_nil _ _ (List.map_eq_nil_iff.mp h)

/-! ## 2. Two lists of segments -/

/-- Two lists part after some segments that they share. -/
def PartAfter (common p q : List String) : Prop :=
  ∃ a b p' q', p = common ++ a :: p' ∧ q = common ++ b :: q' ∧ a ≠ b

/-- One of two lists leads as far as the other or beyond, or stops above its end, or they part. -/
theorem leads_or_parts (p q : List String) :
    (∃ rest, q = p ++ rest) ∨ (∃ s rest, p = q ++ s :: rest) ∨ ∃ common, PartAfter common p q := by
  induction p generalizing q with
  | nil => exact Or.inl ⟨q, rfl⟩
  | cons a p ih =>
    cases q with
    | nil => exact Or.inr (Or.inl ⟨a, p, rfl⟩)
    | cons b q =>
      by_cases hab : a = b
      · subst hab
        rcases ih q with ⟨rest, rfl⟩ | ⟨s, rest, rfl⟩ | ⟨common, s, t, p', q', rfl, rfl, hst⟩
        · exact Or.inl ⟨rest, rfl⟩
        · exact Or.inr (Or.inl ⟨s, rest, rfl⟩)
        · exact Or.inr (Or.inr ⟨a :: common, s, t, p', q', rfl, rfl, hst⟩)
      · exact Or.inr (Or.inr ⟨[], a, b, p, q, rfl, rfl, hab⟩)

/-- Two lists of which none leads as far as the other part. -/
theorem exists_partAfter {p q : List String} (h : ¬ p <+: q) (h' : ¬ q <+: p) :
    ∃ common, PartAfter common p q := by
  rcases leads_or_parts p q with ⟨rest, hq⟩ | ⟨s, rest, hp⟩ | hpart
  · exact absurd ⟨rest, hq.symm⟩ h
  · exact absurd ⟨s :: rest, hp.symm⟩ h'
  · exact hpart

/-- What two lists share ends where they part. -/
theorem PartAfter.shared {common p q way : List String} (h : PartAfter common p q)
    (hp : way <+: p) (hq : way <+: q) : way <+: common := by
  obtain ⟨a, b, p', q', rfl, rfl, hab⟩ := h
  rcases List.prefix_or_prefix_of_prefix hp (List.prefix_append common (a :: p')) with hway | hway
  · exact hway
  · obtain ⟨rest, rfl⟩ := hway
    cases rest with
    | nil => rw [List.append_nil]
    | cons c rest =>
      have hca := (List.cons_prefix_cons.mp ((List.prefix_append_right_inj common).mp hp)).1
      have hcb := (List.cons_prefix_cons.mp ((List.prefix_append_right_inj common).mp hq)).1
      exact absurd (hca.symm.trans hcb) hab

/-- The value and everything that is met on the way down some segments is an object. -/
def ObjectsAlong (v : Json) (ss : List String) : Prop :=
  ∀ way, way <+: ss → ∃ members, getSegments? v way = some (.object members)

theorem ObjectsAlong.object {v : Json} {ss : List String} (h : ObjectsAlong v ss) :
    ∃ members, v = .object members := by
  obtain ⟨members, hv⟩ := h [] (List.nil_prefix)
  exact ⟨members, Option.some.inj hv⟩

theorem getSegments?_object_cons (members : List (String × Json)) (s : String)
    (ss : List String) : getSegments? (.object members) (s :: ss) =
      (Keyed.get? members s).bind fun u => getSegments? u ss := rfl

theorem objectsAlong_nil (members : List (String × Json)) : ObjectsAlong (.object members) [] := by
  intro way hway
  rw [List.prefix_nil.mp hway]
  exact ⟨members, rfl⟩

theorem objectsAlong_cons {members : List (String × Json)} {s : String} {ss : List String} :
    ObjectsAlong (.object members) (s :: ss) ↔
      ∃ u, Keyed.get? members s = some u ∧ ObjectsAlong u ss := by
  constructor
  · intro h
    obtain ⟨_, hread⟩ := h [s] ⟨ss, rfl⟩
    rw [getSegments?_object_cons] at hread
    obtain ⟨u, hu, -⟩ := Option.bind_eq_some_iff.mp hread
    refine ⟨u, hu, fun way hway => ?_⟩
    obtain ⟨inner, hinner⟩ := h (s :: way) (List.prefix_cons_inj s |>.mpr hway)
    rw [getSegments?_object_cons, hu] at hinner
    exact ⟨inner, hinner⟩
  · rintro ⟨u, hu, hrest⟩ way hway
    cases way with
    | nil => exact ⟨members, rfl⟩
    | cons t way =>
      obtain ⟨rfl, hbelow⟩ := List.cons_prefix_cons.mp hway
      obtain ⟨inner, hinner⟩ := hrest way hbelow
      refine ⟨inner, ?_⟩
      rw [getSegments?_object_cons, hu]
      exact hinner

/-! ## 3. Reading after writing -/

theorem setSegments_cons (w v : Json) (s : String) (ss : List String) :
    setSegments w v (s :: ss) = .object (Keyed.set (membersOrNone v) s
      (setSegments w ((Keyed.get? (membersOrNone v) s).getD (.object [])) ss)) := rfl

/-- The first step along the segments that were written leads into what was written below. -/
theorem getSegments?_setSegments_same (w v : Json) (s : String) (ss q : List String) :
    getSegments? (setSegments w v (s :: ss)) (s :: q) = getSegments?
      (setSegments w ((Keyed.get? (membersOrNone v) s).getD (.object [])) ss) q := by
  rw [setSegments_cons, getSegments?_object_cons, Keyed.get?_set_self]
  rfl

/-- A step aside leads to what stood there, if there was an object. -/
theorem getSegments?_setSegments_aside (w v : Json) {s t : String} (h : s ≠ t)
    (ss q : List String) : getSegments? (setSegments w v (s :: ss)) (t :: q) =
      (Keyed.get? (membersOrNone v) t).bind fun u => getSegments? u q := by
  rw [setSegments_cons, getSegments?_object_cons, Keyed.get?_set_of_ne _ _ h]

theorem getSegments?_beyond (w v : Json) (p rest : List String) :
    getSegments? (setSegments w v p) (p ++ rest) = getSegments? w rest := by
  induction p generalizing v with
  | nil => rfl
  | cons s p ih =>
    rw [List.cons_append, getSegments?_setSegments_same]
    exact ih _

theorem getSegments?_above (w v : Json) (q : List String) (s : String) (rest : List String) :
    ∃ members, getSegments? (setSegments w v (q ++ s :: rest)) q = some (.object members) := by
  induction q generalizing v with
  | nil => exact ⟨_, rfl⟩
  | cons t q ih =>
    rw [List.cons_append, getSegments?_setSegments_same]
    exact ih _

/-- Segments that part from the written ones below objects read what they read before. -/
theorem getSegments?_beside (w : Json) {v : Json} {common p q : List String}
    (hpart : PartAfter common p q) (h : ObjectsAlong v common) :
    getSegments? (setSegments w v p) q = getSegments? v q := by
  obtain ⟨a, b, p', q', rfl, rfl, hab⟩ := hpart
  induction common generalizing v with
  | nil =>
    obtain ⟨members, rfl⟩ := h.object
    exact getSegments?_setSegments_aside w _ hab p' q'
  | cons s common ih =>
    obtain ⟨members, rfl⟩ := h.object
    obtain ⟨u, hu, hrest⟩ := objectsAlong_cons.mp h
    have hstep : getSegments? (.object members) (s :: (common ++ b :: q')) =
        getSegments? u (common ++ b :: q') := by
      rw [getSegments?_object_cons, hu]
      rfl
    rw [List.cons_append, List.cons_append, getSegments?_setSegments_same, hstep]
    unfold membersOrNone
    rw [hu]
    exact ih hrest

/-- Segments that part from the written ones below something else read nothing. -/
theorem getSegments?_lost (w : Json) {v : Json} {common p q : List String}
    (hpart : PartAfter common p q) (h : ¬ ObjectsAlong v common) :
    getSegments? (setSegments w v p) q = none := by
  obtain ⟨a, b, p', q', rfl, rfl, hab⟩ := hpart
  induction common generalizing v with
  | nil =>
    rw [List.nil_append, List.nil_append, getSegments?_setSegments_aside w _ hab]
    have hnone : membersOrNone v = [] := by
      unfold membersOrNone
      split
      · next members => exact absurd (objectsAlong_nil members) h
      · rfl
    rw [hnone]
    rfl
  | cons s common ih =>
    rw [List.cons_append, List.cons_append, getSegments?_setSegments_same]
    cases hmember : Keyed.get? (membersOrNone v) s with
    | none =>
      -- a new object is put there, in which nothing stands beside what is written
      by_cases hnew : ObjectsAlong (.object []) common
      · have hpart : PartAfter common (common ++ a :: p') (common ++ b :: q') :=
          ⟨a, b, p', q', rfl, rfl, hab⟩
        refine (getSegments?_beside w hpart hnew).trans ?_
        cases common with
        | nil => rfl
        | cons t common => rfl
      · exact ih hnew
    | some u =>
      refine ih fun hbelow => h ?_
      cases v with
      | object members => exact objectsAlong_cons.mpr ⟨u, hmember, hbelow⟩
      | _ => cases hmember

/-- What some segments read after a value was put at the end of others. -/
structure ReadsAfterWrite (v w : Json) (p q : List String) (answer : Option Json) : Prop where
  /-- There are three cases. -/
  covered : (∃ rest, q = p ++ rest) ∨ (∃ s rest, p = q ++ s :: rest) ∨
    ∃ common, PartAfter common p q
  /-- Beyond the end of the written segments the new value is read. -/
  beyond (rest : List String) : q = p ++ rest → answer = getSegments? w rest
  /-- Above it there is an object. -/
  above (s : String) (rest : List String) : p = q ++ s :: rest →
    ∃ members, answer = some (.object members)
  /-- Beside it, below objects only, the old answer is still there. -/
  beside (common : List String) : PartAfter common p q → ObjectsAlong v common →
    answer = getSegments? v q
  /-- Beside it, below anything else, there is nothing. -/
  lost (common : List String) : PartAfter common p q → ¬ ObjectsAlong v common → answer = none

theorem readsAfterWrite (v w : Json) (p q : List String) :
    ReadsAfterWrite v w p q (getSegments? (setSegments w v p) q) where
  covered := leads_or_parts p q
  beyond rest hq := by rw [hq, getSegments?_beyond]
  above s rest hp := by
    rw [hp]
    exact getSegments?_above w v q s rest
  beside _ hpart h := getSegments?_beside w hpart h
  lost _ hpart h := getSegments?_lost w hpart h

/-! ## 4. Writing in place -/

/-- An object; any other value makes room for an empty one. -/
def asObject : Json → Json
  | .object members => .object members
  | _ => .object []

theorem asObject_eq (v : Json) : asObject v = .object (membersOrNone v) := by
  cases v <;> rfl

/-- Puts a value in place at the end of some segments of a path, with a look before each step
whether there is an object to step into: how it went, and what has become of the value. -/
def putSegments (path : String) (w : Json) : Json → List String → Except Fault Unit × Json
  | v, [] => (.error (.badPath path .blank), v)
  | v, [last] =>
    match asObject v with
    | .object members => (.ok (), .object (Keyed.set members last w))
    | u => (.error (.badPath path (.other "target is not an object")), u)
  | v, s :: t :: ss =>
    match asObject v with
    | .object members =>
      let (result, inner) :=
        putSegments path w ((Keyed.get? members s).getD (.object [])) (t :: ss)
      (result, .object (Keyed.set members s inner))
    | u => (.error (.badPath path (.other "intermediate value is not an object")), u)

/-- Puts a value in place at the end of a path. -/
def put (v : Json) (path : String) (w : Json) : Except Fault Unit × Json :=
  match segments path with
  | .ok ss => putSegments path w v ss
  | .error f => (.error f, v)

/-- The looks never fail. -/
theorem putSegments_eq (path : String) (w v : Json) (s : String) (ss : List String) :
    putSegments path w v (s :: ss) = (.ok (), setSegments w v (s :: ss)) := by
  induction ss generalizing v s with
  | nil =>
    unfold putSegments
    rw [asObject_eq]
    rfl
  | cons t ss ih =>
    unfold putSegments
    rw [asObject_eq]
    dsimp only
    rw [ih]
    rfl

/-- **Writing in place** does what writing does, and changes nothing when it fails. -/
theorem put_eq (v : Json) (path : String) (w : Json) :
    put v path w = match setPath v path w with
      | .ok u => (.ok (), u)
      | .error f => (.error f, v) := by
  unfold put setPath
  cases hsegments : segments path with
  | error f => rfl
  | ok ss =>
    obtain ⟨-, rfl⟩ := segments_eq_ok_iff.mp hsegments
    cases hpieces : pieces path with
    | nil => exact absurd hpieces (pieces_ne_nil path)
    | cons s ss => exact putSegments_eq path w v s ss

/-! ## 5. The law -/

theorem getPath?_of_malformed {path : String} (h : Malformed path) (v : Json) :
    getPath? v path = none := by
  unfold getPath?
  rcases segments_of_malformed h with herror | herror
  · rw [herror]
  · rw [herror]

/-- **What writing along a path does**, and what every path reads afterwards. -/
structure WriteLaw (v : Json) (path : String) (w : Json) : Prop where
  /-- It fails for paths that are malformed, and for no other. -/
  fails : (∃ f, setPath v path w = .error f) ↔ Malformed path
  /-- There are two reasons to fail. -/
  reasons (f : Fault) : setPath v path w = .error f →
    f = .badPath path .blank ∨ f = .badPath path .blankSegment
  /-- In place, with a look before each step, it goes the same; failing leaves the value alone. -/
  inPlace : put v path w = match setPath v path w with
    | .ok u => (.ok (), u)
    | .error f => (.error f, v)
  /-- Along a malformed path nothing is read, before and after. -/
  unread (u : Json) (other : String) : Malformed other → getPath? u other = none
  /-- Otherwise the segments decide what is read. -/
  reads (u : Json) (other : String) : setPath v path w = .ok u → ¬ Malformed other →
    ReadsAfterWrite v w (pieces path) (pieces other) (getPath? u other)

/-- **The law of reading after writing**, for all values and all paths. -/
theorem setPath_lawful (v : Json) (path : String) (w : Json) : WriteLaw v path w where
  fails := by
    unfold setPath
    rcases segments_cases path with ⟨h, herror | herror⟩ | ⟨h, hok⟩
    · rw [herror]
      exact ⟨fun _ => h, fun _ => ⟨_, rfl⟩⟩
    · rw [herror]
      exact ⟨fun _ => h, fun _ => ⟨_, rfl⟩⟩
    · rw [hok]
      exact ⟨fun ⟨_, hf⟩ => (by cases hf), fun hmalformed => absurd hmalformed h⟩
  reasons f hf := by
    unfold setPath at hf
    rcases segments_cases path with ⟨-, herror | herror⟩ | ⟨-, hok⟩
    · rw [herror] at hf
      cases hf
      exact Or.inl rfl
    · rw [herror] at hf
      cases hf
      exact Or.inr rfl
    · rw [hok] at hf
      cases hf
  inPlace := put_eq v path w
  unread u _ h := getPath?_of_malformed h u
  reads u other hset hformed := by
    unfold setPath at hset
    unfold getPath?
    cases hsegments : segments path with
    | error f =>
      rw [hsegments] at hset
      cases hset
    | ok ss =>
      rw [hsegments] at hset
      cases hset
      obtain ⟨-, rfl⟩ := segments_eq_ok_iff.mp hsegments
      rw [segments_eq_ok_iff.mpr ⟨hformed, rfl⟩]
      exact readsAfterWrite v w _ _

end Workgraph.Json
