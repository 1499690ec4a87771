import Workgraph.Proofs.Simulation

/-!
# Nodes with and without a record

The executor of a node does the same whether the host keeps a record or not. What it adds to the
record is within its reach: it tells of its own node only, and asks the model or searches a
knowledge store only while the run is not cancelled.

* `Contact.Within` says what the executor of a node may ask of the host.
* `Record.Grows` says that such contacts were added to a record.
* `Session.Bare` relates a session to the same one with a record that grew so. A frame is in accord
  on it with the recorded frame (`Frame.accord_recorded`).
* `Exec.Mirrors` joins a step with the same step in the recorded frame; `execute_mirrors` is the
  lemma for nodes.

A node may write the state but for the recorded outputs, which only the run itself writes; they are
a parameter of `Mirrors`.
-/

namespace Workgraph

variable {σ : Type}

/-! ## 1. What a node may ask -/

/-- What the executor of a node may ask of the host. -/
def Contact.Within (c : Frame σ) (nodeId : String) (k : Contact σ) : Prop :=
  match k.deed with
  | .told e => e.executionId = c.executionId ∧ e.happening.Within nodeId
  | .asked _ | .searched _ => c.host.cancelled k.before = false
  | _ => True

/-- Contacts of a node were added to a record. -/
def Record.Grows (c : Frame σ) (nodeId : String) (r r' : Record σ) : Prop :=
  ∃ ks, r'.contacts = r.contacts ++ ks ∧ c.host.Leads r.world ks r'.world ∧
    ∀ k ∈ ks, k.Within c nodeId

namespace Record.Grows

variable {c : Frame σ} {nodeId : String} {r r' r'' : Record σ}

theorem refl (r : Record σ) : r.Grows c nodeId r :=
  ⟨[], (List.append_nil _).symm, .nil _, fun _ hk => absurd hk List.not_mem_nil⟩

theorem trans (h : r.Grows c nodeId r') (h' : r'.Grows c nodeId r'') : r.Grows c nodeId r'' := by
  obtain ⟨ks, hks, hleads, hwithin⟩ := h
  obtain ⟨ks', hks', hleads', hwithin'⟩ := h'
  refine ⟨ks ++ ks', ?_, hleads.append hleads', fun k hk => ?_⟩
  · rw [hks', hks, List.append_assoc]
  · rcases List.mem_append.mp hk with hk | hk
    · exact hwithin k hk
    · exact hwithin' k hk

theorem note {deed : Deed} {w : σ} (hmakes : c.host.Makes ⟨deed, r.world, w⟩)
    (hwithin : Contact.Within c nodeId ⟨deed, r.world, w⟩) :
    r.Grows c nodeId (r.note deed w) := by
  refine ⟨[⟨deed, r.world, w⟩], rfl, .single hmakes, fun k hk => ?_⟩
  rw [List.mem_singleton.mp hk]
  exact hwithin

end Record.Grows

/-! ## 2. Sessions with and without a record -/

/-- What a node writes leaves the recorded outputs alone. -/
theorem NodeBody.writes_outputs {c : Frame σ} {nodeId : String} {b : NodeBody} {op : Operation}
    (h : b.Writes c nodeId op) (s : RunState) : (op.write s).outputs = s.outputs := by
  cases op with
  | setVar path v =>
    rcases Operation.write_setVar path v s with hw | ⟨vars, hw⟩
    · rw [hw]
    · rw [hw]
  | recordOutput id v => cases b <;> exact h.elim
  | _ => rfl

/-- A session, and the same one with a record that grew from a first one; the recorded outputs are
as given. -/
structure Session.Bare (c : Frame σ) (nodeId : String) (outputs : Keyed Json) (first : Record σ)
    (s : Session σ) (s' : Session (Record σ)) : Prop where
  bare : s = s'.bare
  outputs : s'.state.outputs = outputs
  grows : first.Grows c nodeId s'.world

section

variable {c : Frame σ} {nodeId : String} {outputs : Keyed Json} {first : Record σ}

/-- The relation survives that both hosts are asked, which one of them notes. -/
theorem Session.Bare.note {s : Session σ} {s' : Session (Record σ)}
    (hs : Bare c nodeId outputs first s s') {deed : Deed} {w : σ}
    (hmakes : c.host.Makes ⟨deed, s.world, w⟩)
    (hwithin : Contact.Within c nodeId ⟨deed, s.world, w⟩) :
    Bare c nodeId outputs first { s with world := w }
      { s' with world := s'.world.note deed w } := by
  obtain ⟨rfl, houtputs, hgrows⟩ := hs
  exact ⟨rfl, houtputs, hgrows.trans (.note hmakes hwithin)⟩

/-- A service of a host, and the same one with its use noted. -/
theorem serves_noting {α : Type} {P : Session σ → Session (Record σ) → Prop}
    (hP : ∀ s s', P s s' → s.Bare c nodeId outputs first s') {service : σ → α × σ} {deed : Deed}
    (hmakes : ∀ w, c.host.Makes ⟨deed, w, (service w).2⟩)
    (hwithin : ∀ s s', P s s' → ∀ w, Contact.Within c nodeId ⟨deed, s.world, w⟩) :
    Serves P (Session.Bare c nodeId outputs first) service (Record.noting deed service) := by
  intro s s' hs
  have hbare := hP s s' hs
  have hworld : s'.world.world = s.world := by rw [hbare.bare, Session.bare]
  unfold Record.noting
  rw [hworld]
  exact ⟨rfl, hbare.note (hmakes _) (hwithin s s' hs _)⟩

theorem servesIfAny_noting {ι α : Type} {P : Session σ → Session (Record σ) → Prop}
    (hP : ∀ s s', P s s' → s.Bare c nodeId outputs first s') {service? : Option (ι → σ → α × σ)}
    {deed : ι → Deed}
    (hmakes : ∀ service, service? = some service → ∀ q w,
      c.host.Makes ⟨deed q, w, (service q w).2⟩)
    (hwithin : ∀ q s s', P s s' → ∀ w, Contact.Within c nodeId ⟨deed q, s.world, w⟩) :
    ServesIfAny P (Session.Bare c nodeId outputs first) service?
      (service?.map fun service q => Record.noting (deed q) (service q)) := by
  cases service? with
  | none => exact .none
  | some service => exact .some fun q => serves_noting hP (hmakes service rfl q) (hwithin q)

/-- A frame is in accord with the recorded one. -/
theorem Frame.accord_recorded (c : Frame σ) (nodeId : String) (outputs : Keyed Json)
    (first : Record σ) : c.Accord c.recorded nodeId (Session.Bare c nodeId outputs first) where
  graph := .refl _
  engine := rfl
  settings := rfl
  state hs := by rw [hs.bare, Session.bare]
  resolver hs := by rw [hs.bare, Session.bare]
  remember r hs := by
    obtain ⟨rfl, houtputs, hgrows⟩ := hs
    exact ⟨rfl, houtputs, hgrows⟩
  cancelled hs := by
    rw [hs.bare]
    rfl
  told {happening _ _} hwithin _ hs := by
    have hnote := hs.note (.told ⟨c.executionId, happening⟩ _) ⟨rfl, hwithin⟩
    rw [hs.bare] at hnote ⊢
    exact hnote
  searched := servesIfAny_noting (fun _ _ hs => hs.1) (fun _ hsupplied => .searched hsupplied)
    fun _ _ _ hs _ => hs.2
  counted := servesIfAny_noting (fun _ _ hs => hs) (fun _ hsupplied => .counted hsupplied)
    fun _ _ _ _ _ => trivial
  drew _ := serves_noting (fun _ _ hs => hs) (.drew _) fun _ _ _ _ => trivial

theorem Frame.accordOnReplies_recorded (c : Frame σ) (nodeId : String) (outputs : Keyed Json)
    (first : Record σ) :
    c.AccordOnReplies c.recorded nodeId (Session.Bare c nodeId outputs first) where
  heard text _ _ hs := by
    have hnote := hs.note (.told ⟨c.executionId, .assistantDelta nodeId text⟩ _) ⟨rfl, rfl⟩
    rw [hs.bare] at hnote ⊢
    exact hnote
  waited := serves_noting (fun _ _ hs => hs) .waited fun _ _ _ _ => trivial
  lapsed hs := by
    have hnote := hs.note (.lapsed _) trivial
    rw [hs.bare] at hnote ⊢
    exact hnote

theorem Frame.accordOnModel_recorded (c : Frame σ) (nodeId : String) (outputs : Keyed Json)
    (first : Record σ) : c.AccordOnModel c.recorded (Session.Bare c nodeId outputs first) :=
  servesIfAny_noting (fun _ _ hs => hs.1) (fun _ hsupplied => .asked hsupplied)
    fun _ _ _ hs _ => hs.2

theorem permits_bare {b : NodeBody} :
    Permits (Session.Bare c nodeId outputs first) (b.Writes c nodeId) := by
  intro op hop s s' hs
  obtain ⟨rfl, houtputs, hgrows⟩ := hs
  exact ⟨rfl, (NodeBody.writes_outputs hop s'.state).trans houtputs, hgrows⟩

end

/-! ## 3. Nodes -/

namespace Exec

/-- **A step, and the same step in the recorded frame**, from sessions that differ by the record
only: both settle alike, the outputs are kept, and contacts of the node are added. -/
def Mirrors {α : Type} (c : Frame σ) (nodeId : String) (outputs : Keyed Json) (act : Exec σ α)
    (act' : Exec (Record σ) α) : Prop :=
  ∀ s, s.state.outputs = outputs → ∃ x s', settle act' s = (x, s') ∧
    settle act s.bare = (x, s'.bare) ∧ s'.state.outputs = outputs ∧
    s.world.Grows c nodeId s'.world

/-- **The executor of a node does the same with a record**, and adds to it what is within reach. -/
theorem execute_mirrors (c : Frame σ) (outputs : Keyed Json) (n : Node) :
    Mirrors c n.id outputs (execute c n) (execute c.recorded n) := by
  intro s hs
  have haccord := c.accord_recorded n.id outputs s.world
  have hfollows := execute_follows haccord
    (asksAlikeIfAny haccord (c.accordOnModel_recorded n.id outputs s.world)
      (c.accordOnReplies_recorded n.id outputs s.world)) permits_bare
  obtain ⟨hresult, hbare, houtputs, hgrows⟩ := hfollows s.bare s ⟨rfl, hs, .refl _⟩
  refine ⟨(settle (execute c.recorded n) s).1, (settle (execute c.recorded n) s).2, rfl, ?_,
    houtputs, hgrows⟩
  rw [hresult, ← hbare]

end Exec

end Workgraph
