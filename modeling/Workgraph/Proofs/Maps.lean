import Mathlib.Data.List.Nodup
import Mathlib.Data.List.Perm.Basic
import Mathlib.Data.String.Basic
import Workgraph.Keyed

/-!
# Maps of pairs

What is known of a map (`Keyed`) that was made of pairs.

* `Ascending` is kept by `set`, so `ofList` always gives a map, and a map is the map of its own
  pairs (`ofList_of_ascending`);
* where no key occurs twice, the map finds the pairs it was made of (`get?_ofList`, `get?_of_mem`)
  and each key has one pair at most (`filter_key`).
* Of two values put under one key the later counts (`set_set_self`); values for two keys may be put
  in either order (`set_comm`).
-/

namespace Workgraph.Keyed

variable {α : Type*}

/-! ## 1. Looking up -/

theorem get?_cons (e : String × α) (m : Keyed α) (k : String) :
    get? (e :: m) k = if e.1 = k then some e.2 else get? m k := rfl

theorem get?_eq_none {m : Keyed α} {k : String} (h : k ∉ m.map (·.1)) : m.get? k = none := by
  induction m with
  | nil => rfl
  | cons e rest ih =>
    rw [List.map_cons, List.mem_cons, not_or] at h
    rw [get?_cons, if_neg (Ne.symm h.1), ih h.2]

theorem get?_of_mem {m : Keyed α} (hnodup : (m.map (·.1)).Nodup) {e : String × α} (he : e ∈ m) :
    m.get? e.1 = some e.2 := by
  induction m with
  | nil => cases he
  | cons e' rest ih =>
    obtain ⟨hnew, hnodup⟩ := List.nodup_cons.mp hnodup
    rw [get?_cons]
    rcases List.mem_cons.mp he with rfl | he
    · exact if_pos rfl
    · rw [if_neg fun h => hnew (List.mem_map.mpr ⟨e, he, h.symm⟩), ih hnodup he]

theorem mem_of_get? {m : Keyed α} {k : String} {v : α} (h : m.get? k = some v) : (k, v) ∈ m := by
  induction m with
  | nil => cases h
  | cons e rest ih =>
    rw [get?_cons] at h
    split_ifs at h with heq
    · cases h
      exact heq ▸ List.mem_cons_self ..
    · exact List.mem_cons_of_mem _ (ih h)

/-- The pairs of a key are at most one. -/
theorem filter_key {m : Keyed α} (hnodup : (m.map (·.1)).Nodup) (k : String) :
    (m.filter fun e => e.1 = k).map (·.2) = (m.get? k).toList := by
  induction m with
  | nil => rfl
  | cons e rest ih =>
    obtain ⟨hnew, hrest⟩ := List.nodup_cons.mp hnodup
    rw [List.filter_cons, get?_cons]
    by_cases h : e.1 = k
    · subst h
      rw [if_pos (decide_eq_true rfl), if_pos rfl, List.map_cons, ih hrest, get?_eq_none hnew]
      rfl
    · rw [if_neg (by simpa using h), if_neg h, ih hrest]

/-! ## 2. Keys that ascend -/

theorem mem_set {m : Keyed α} {k : String} {v : α} {e : String × α} (h : e ∈ m.set k v) :
    e = (k, v) ∨ e ∈ m := by
  induction m with
  | nil => exact .inl (List.mem_singleton.mp h)
  | cons e' rest ih =>
    obtain ⟨k', v'⟩ := e'
    unfold set at h
    split_ifs at h
    · exact (List.mem_cons.mp h).imp_right (List.mem_cons_of_mem _)
    · exact List.mem_cons.mp h
    · rcases List.mem_cons.mp h with rfl | h
      · exact .inr (List.mem_cons_self ..)
      · exact (ih h).imp_right (List.mem_cons_of_mem _)

theorem Ascending.set {m : Keyed α} (hm : m.Ascending) (k : String) (v : α) :
    (m.set k v).Ascending := by
  induction m with
  | nil => exact List.pairwise_singleton ..
  | cons e rest ih =>
    obtain ⟨k', v'⟩ := e
    obtain ⟨hhead, hrest⟩ := List.pairwise_cons.mp hm
    unfold Keyed.set
    split_ifs with heq hlt
    · subst heq
      exact List.pairwise_cons.mpr ⟨hhead, hrest⟩
    · refine List.pairwise_cons.mpr ⟨fun e he => ?_, hm⟩
      rcases List.mem_cons.mp he with rfl | he
      · exact hlt
      · exact hlt.trans (hhead e he)
    · refine List.pairwise_cons.mpr ⟨fun e he => ?_, ih hrest⟩
      rcases mem_set he with rfl | he
      · exact lt_of_le_of_ne (not_lt.mp hlt) heq
      · exact hhead e he

theorem ascending_ofList (es : List (String × α)) : (ofList es).Ascending := by
  unfold ofList
  suffices h : ∀ m : Keyed α, m.Ascending → (es.foldl (fun m e => m.set e.1 e.2) m).Ascending from
    h [] .nil
  induction es with
  | nil => exact fun m hm => hm
  | cons e es ih => exact fun m hm => ih _ (hm.set e.1 e.2)

theorem Ascending.nodup {m : Keyed α} (h : m.Ascending) : (m.map (·.1)).Nodup :=
  List.pairwise_map.mpr (h.imp fun hlt => hlt.ne)

/-- A key above all others goes to the end. -/
theorem set_of_above {m : Keyed α} {k : String} (h : ∀ e ∈ m, e.1 < k) (v : α) :
    m.set k v = m ++ [(k, v)] := by
  induction m with
  | nil => rfl
  | cons e rest ih =>
    obtain ⟨hlt, hrest⟩ := List.forall_mem_cons.mp h
    obtain ⟨k', v'⟩ := e
    unfold set
    rw [if_neg hlt.ne, if_neg hlt.not_gt, ih hrest, List.cons_append]

theorem ofList_of_ascending {es : Keyed α} (h : es.Ascending) : ofList es = es := by
  unfold ofList
  suffices hfold : ∀ m : Keyed α, Ascending (m ++ es) →
      es.foldl (fun m e => m.set e.1 e.2) m = m ++ es from hfold [] h
  induction es with
  | nil => exact fun m _ => (List.append_nil m).symm
  | cons e es ih =>
    intro m hm
    have habove : ∀ e' ∈ m, e'.1 < e.1 := fun e' he' =>
      (List.pairwise_append.mp hm).2.2 e' he' e (List.mem_cons_self ..)
    rw [List.foldl_cons, set_of_above habove, ih (List.pairwise_cons.mp h).2, List.append_assoc,
      List.singleton_append]
    rwa [List.append_assoc, List.singleton_append]

/-! ## 3. Maps made of pairs -/

/-- Pairs of different keys are all found. -/
theorem get?_ofList {es : List (String × α)} (hnodup : (es.map (·.1)).Nodup) (k : String) :
    (ofList es).get? k = get? es k := by
  suffices h : ∀ m : Keyed α,
      get? (es.foldl (fun m e => m.set e.1 e.2) m) k = (get? es k).or (m.get? k) from
    (h []).trans (Option.or_none ..)
  induction es with
  | nil => exact fun m => rfl
  | cons e es ih =>
    obtain ⟨hnew, hnodup⟩ := List.nodup_cons.mp hnodup
    intro m
    rw [List.foldl_cons, ih hnodup, get?_set, get?_cons]
    split_ifs with h
    · subst h
      rw [get?_eq_none hnew]
      rfl
    · rfl

theorem mem_of_mem_ofList {es : List (String × α)} {e : String × α} (h : e ∈ ofList es) :
    e ∈ es := by
  suffices hfold : ∀ m : Keyed α, e ∈ es.foldl (fun m e => m.set e.1 e.2) m → e ∈ m ∨ e ∈ es from
    (hfold [] h).resolve_left List.not_mem_nil
  clear h
  induction es with
  | nil => exact fun m h => .inl h
  | cons e' es ih =>
    intro m h
    rcases ih _ h with h | h
    · rcases mem_set h with rfl | h
      · exact .inr (List.mem_cons_self ..)
      · exact .inl h
    · exact .inr (List.mem_cons_of_mem _ h)

/-- Pairs of different keys are all in the map they make. -/
theorem perm_ofList {es : List (String × α)} (hnodup : (es.map (·.1)).Nodup) :
    (ofList es).Perm es := by
  have hnodup' : (ofList es).Nodup := .of_map _ (ascending_ofList es).nodup
  refine (List.perm_ext_iff_of_nodup hnodup' (.of_map _ hnodup)).mpr fun e =>
    ⟨mem_of_mem_ofList, fun he => ?_⟩
  have hget : (ofList es).get? e.1 = some e.2 := by
    rw [get?_ofList hnodup, get?_of_mem hnodup he]
  exact mem_of_get? hget

/-- Pairs of different keys make one map in any order. -/
theorem ofList_perm {es es' : List (String × α)} (h : es.Perm es')
    (hnodup : (es'.map (·.1)).Nodup) : ofList es = ofList es' := by
  have hnodup' : (es.map (·.1)).Nodup := (h.map _).nodup_iff.mpr hnodup
  refine List.Perm.eq_of_pairwise (fun a b _ _ hab hba => absurd hba (lt_asymm hab))
    (ascending_ofList es) (ascending_ofList es') ?_
  exact (perm_ofList hnodup').trans (h.trans (perm_ofList hnodup).symm)

/-! ## 4. Writing twice -/

/-- A key stands before all keys of a map, as far as its first pair shows. -/
def Below (k : String) (m : Keyed α) : Prop := ∀ e ∈ m.head?, k < e.1

theorem set_of_below {m : Keyed α} {k : String} (h : Below k m) (v : α) :
    m.set k v = (k, v) :: m := by
  cases m with
  | nil => rfl
  | cons e rest =>
    have hlt : k < e.1 := h e rfl
    unfold set
    rw [if_neg hlt.ne', if_pos hlt]

theorem set_cons_self (k : String) (v w : α) (rest : Keyed α) :
    set ((k, w) :: rest) k v = (k, v) :: rest := if_pos rfl

theorem set_cons_of_lt {k k' : String} (h : k' < k) (v' : α) (rest : Keyed α) (v : α) :
    set ((k', v') :: rest) k v = (k', v') :: set rest k v :=
  (if_neg h.ne).trans (if_neg h.not_gt)

/-- A key below a map and below another key is below the map with that key. -/
theorem Below.set {m : Keyed α} {k j : String} (h : Below k m) (hj : k < j) (w : α) :
    Below k (m.set j w) := by
  cases m with
  | nil => exact fun e he => Option.mem_some_iff.mp he ▸ hj
  | cons e rest =>
    obtain ⟨k', v'⟩ := e
    rcases lt_trichotomy k' j with hlt | rfl | hlt
    · rw [set_cons_of_lt hlt]
      exact h
    · rw [set_cons_self]
      exact fun e' he' => Option.mem_some_iff.mp he' ▸ hj
    · rw [set_of_below fun e' he' => Option.mem_some_iff.mp he' ▸ hlt]
      exact fun e' he' => Option.mem_some_iff.mp he' ▸ hj

/-- Of two values for one key the later counts. -/
theorem set_set_self (m : Keyed α) (k : String) (v w : α) : (m.set k w).set k v = m.set k v := by
  induction m with
  | nil => exact set_cons_self k v w []
  | cons e rest ih =>
    obtain ⟨k', v'⟩ := e
    rcases lt_trichotomy k' k with hlt | rfl | hlt
    · rw [set_cons_of_lt hlt, set_cons_of_lt hlt, set_cons_of_lt hlt, ih]
    · rw [set_cons_self, set_cons_self, set_cons_self]
    · have hbelow : Below k ((k', v') :: rest) := fun e he => Option.mem_some_iff.mp he ▸ hlt
      rw [set_of_below hbelow, set_of_below hbelow, set_cons_self]

theorem set_comm_of_lt (m : Keyed α) {k j : String} (h : k < j) (v w : α) :
    (m.set k v).set j w = (m.set j w).set k v := by
  induction m with
  | nil =>
    have hbelow : Below k ([] : Keyed α) := fun e he => absurd he (Option.not_mem_none e)
    exact (set_cons_of_lt h v [] w).trans (set_of_below (hbelow.set h w) v).symm
  | cons e rest ih =>
    obtain ⟨k', v'⟩ := e
    rcases lt_trichotomy k' k with hlt | rfl | hlt
    · rw [set_cons_of_lt hlt, set_cons_of_lt (hlt.trans h), set_cons_of_lt (hlt.trans h),
        set_cons_of_lt hlt, ih]
    · rw [set_cons_self, set_cons_of_lt h, set_cons_of_lt h, set_cons_self]
    · have hbelow : Below k ((k', v') :: rest) := fun e he => Option.mem_some_iff.mp he ▸ hlt
      rw [set_of_below hbelow, set_cons_of_lt h, set_of_below (hbelow.set h w)]

/-- Values for two keys may be put in either order. -/
theorem set_comm (m : Keyed α) {k j : String} (h : k ≠ j) (v w : α) :
    (m.set k v).set j w = (m.set j w).set k v := by
  rcases lt_or_gt_of_ne h with hlt | hlt
  · exact set_comm_of_lt m hlt v w
  · exact (set_comm_of_lt m hlt w v).symm

end Workgraph.Keyed
