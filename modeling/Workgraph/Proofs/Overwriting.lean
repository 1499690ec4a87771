import Workgraph.Proofs.Maps
import Workgraph.Proofs.Paths

/-!
# Writing twice along paths

What becomes of a value in which two paths are written, one after the other. As in `Paths`, the
segments decide: one path stops above the end of the other or at it, or leads beyond it, or they
part.

* `setSegments_setSegments_same` is one step along segments that both paths share,
  `setSegments_setSegments_aside` the step at which they part.
* `setSegments_above`, `setSegments_beyond` and `setSegments_beside` go through all the steps, by
  induction on the segments that are shared. Nothing is assumed about the value: whatever stands in
  the way makes room for an object at the first write of the two, and what it makes room for is the
  same in either order.
* `setPath_algebra` is the main result.
-/

namespace Workgraph.Json

/-! ## 1. One step -/

/-- The value below an object's key that a write steps into; a new object if there is none. -/
def inner (v : Json) (s : String) : Json := (Keyed.get? (membersOrNone v) s).getD (.object [])

theorem setSegments_step (w v : Json) (s : String) (ss : List String) : setSegments w v (s :: ss) =
    .object (Keyed.set (membersOrNone v) s (setSegments w (v.inner s) ss)) :=
  setSegments_cons w v s ss

/-- Two writes that begin with one segment are two writes below it. -/
theorem setSegments_setSegments_same (v w r : Json) (s : String) (p q : List String) :
    setSegments v (setSegments w r (s :: p)) (s :: q) = .object (Keyed.set (membersOrNone r) s
      (setSegments v (setSegments w (r.inner s) p) q)) := by
  rw [setSegments_step w, setSegments_step]
  unfold inner membersOrNone
  dsimp only
  rw [Keyed.get?_set_self, Option.getD_some, Keyed.set_set_self]

/-- Two writes that begin with two segments go below each of them. -/
theorem setSegments_setSegments_aside (v w r : Json) {s t : String} (h : s ≠ t)
    (p q : List String) : setSegments v (setSegments w r (s :: p)) (t :: q) =
      .object (Keyed.set (Keyed.set (membersOrNone r) s (setSegments w (r.inner s) p)) t
        (setSegments v (r.inner t) q)) := by
  rw [setSegments_step w, setSegments_step]
  unfold inner membersOrNone
  dsimp only
  rw [Keyed.get?_set_of_ne _ _ h]

/-! ## 2. Two writes -/

/-- A write at segments that stop above the written ones, or at their end, leaves nothing of the
earlier write. -/
theorem setSegments_above (v w r : Json) (q rest : List String) :
    setSegments v (setSegments w r (q ++ rest)) q = setSegments v r q := by
  induction q generalizing r with
  | nil => rfl
  | cons s q ih => rw [List.cons_append, setSegments_setSegments_same, ih, setSegments_step]

/-- A write at segments that lead beyond the written ones goes into the value that was put there. -/
theorem setSegments_beyond (v w r : Json) (p rest : List String) :
    setSegments v (setSegments w r p) (p ++ rest) = setSegments (setSegments v w rest) r p := by
  induction p generalizing r with
  | nil => rfl
  | cons s p ih => rw [List.cons_append, setSegments_setSegments_same, ih, setSegments_step]

/-- Writes at segments that part may be made in either order. -/
theorem setSegments_beside (v w r : Json) {common p q : List String} (h : PartAfter common p q) :
    setSegments v (setSegments w r p) q = setSegments w (setSegments v r q) p := by
  obtain ⟨a, b, p', q', rfl, rfl, hab⟩ := h
  induction common generalizing r with
  | nil =>
    rw [List.nil_append, List.nil_append, setSegments_setSegments_aside v w r hab,
      setSegments_setSegments_aside w v r hab.symm, Keyed.set_comm _ hab]
  | cons s common ih =>
    rw [List.cons_append, List.cons_append, setSegments_setSegments_same,
      setSegments_setSegments_same, ih]

/-! ## 3. Paths -/

/-- Puts a value at the end of a path, then another one at the end of a path. -/
def setTwice (r : Json) (first : String) (w : Json) (second : String) (v : Json) :
    Except Fault Json := do
  setPath (← setPath r first w) second v

theorem setPath_of_formed {path : String} (h : ¬ Malformed path) (r w : Json) :
    setPath r path w = .ok (setSegments w r (pieces path)) := by
  unfold setPath
  rw [segments_eq_ok_iff.mpr ⟨h, rfl⟩]
  rfl

theorem setTwice_of_formed {p q : String} (hp : ¬ Malformed p) (hq : ¬ Malformed q)
    (r w v : Json) : setTwice r p w q v =
      .ok (setSegments v (setSegments w r (pieces p)) (pieces q)) := by
  unfold setTwice
  rw [setPath_of_formed hp]
  exact setPath_of_formed hq _ v

/-- **The algebra of writes** along two paths into a value. -/
structure WriteAlgebra (r : Json) (p q : String) : Prop where
  /-- Both paths can be written, one after the other. -/
  succeeds (w v : Json) : ∃ u, setTwice r p w q v = .ok u
  /-- A later write at a path cancels an earlier one there, -/
  cancels (w v : Json) : setTwice r p w p v = setPath r p v
  /-- so the same write made again changes nothing. -/
  idempotent (w : Json) : setTwice r p w p w = setPath r p w
  /-- A write at a path that leads to the end of another one, or stops above it, cancels what was
  written there. -/
  absorbs : pieces q <+: pieces p → ∀ w v, setTwice r p w q v = setPath r q v
  /-- A write at a path that leads beyond another one changes the value that was put there. -/
  descends (rest : List String) : pieces q = pieces p ++ rest → ∀ w v,
    setTwice r p w q v = setPath r p (setSegments v w rest)
  /-- Writes at paths of which none leads as far as the other may be made in either order. -/
  commutes : ¬ pieces p <+: pieces q → ¬ pieces q <+: pieces p → ∀ w v,
    setTwice r p w q v = setTwice r q v p w

/-- **Writes along paths obey the algebra**, whatever stands on the two paths. -/
theorem setPath_algebra (r : Json) {p q : String} (hp : ¬ Malformed p) (hq : ¬ Malformed q) :
    WriteAlgebra r p q := by
  have hcancels (w v : Json) : setTwice r p w p v = setPath r p v := by
    have habove := setSegments_above v w r (pieces p) []
    rw [List.append_nil] at habove
    rw [setTwice_of_formed hp hp, setPath_of_formed hp, habove]
  refine ⟨fun w v => ⟨_, setTwice_of_formed hp hq r w v⟩, hcancels, fun w => hcancels w w, ?_, ?_,
    ?_⟩
  · rintro ⟨rest, hrest⟩ w v
    rw [setTwice_of_formed hp hq, setPath_of_formed hq, ← hrest, setSegments_above]
  · intro rest hrest w v
    rw [setTwice_of_formed hp hq, setPath_of_formed hp, hrest, setSegments_beyond]
  · intro hpq hqp w v
    obtain ⟨common, hpart⟩ := exists_partAfter hpq hqp
    rw [setTwice_of_formed hp hq, setTwice_of_formed hq hp, setSegments_beside v w r hpart]

/-- A list of books, of which two paths make a record: one below the first book, and one beside
it. -/
theorem shelf_algebra :
    ¬ Malformed "shelf.0.title" ∧ ¬ Malformed " shelf . monday " ∧
    ¬ pieces "shelf.0.title" <+: pieces " shelf . monday " ∧
    ¬ pieces " shelf . monday " <+: pieces "shelf.0.title" ∧
    WriteAlgebra (.object [("shelf", .array [.string "atlas"])]) "shelf.0.title"
      " shelf . monday " :=
  ⟨by decide +kernel, by decide +kernel, by decide +kernel, by decide +kernel,
    setPath_algebra _ (by decide +kernel) (by decide +kernel)⟩

end Workgraph.Json
