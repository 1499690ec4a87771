import Workgraph.Run.Chain

/-!
# Keeping a record of a run

What a run does can be seen only by its host. This file adds to any host a record of all that it is
asked, in order; the answers stay those of the host, and so does its world.

* A `Contact` is one thing asked of the host, a `Deed`, with the worlds before and after it; `Makes`
  has one rule for each service of a host.
* `Leads` says that contacts follow one another from one world to another.
* `Host.recorded` keeps a `Record` of a world and the contacts that led to it.
* `Lasting` says of a host that a run once cancelled stays cancelled. From there on all contacts
  begin in worlds that are cancelled (`Leads.cancelled`).
-/

namespace Workgraph

variable {σ : Type}

/-! ## 1. Contacts -/

/-- What a run can ask of its host. -/
inductive Deed where
  | told (e : RunEvent)
  | asked (request : CompletionRequest)
  /-- The next piece of a reply, or its end, was waited for. -/
  | waited
  /-- A piece was waited for that never comes. -/
  | lapsed
  | searched (search : Search)
  | counted (record : UsageRecord)
  | drew (bound : Nat)

/-- Something that a host was asked, and the worlds before and after it. -/
structure Contact (σ : Type) where
  deed : Deed
  before : σ
  after : σ

/-- The event that the host was told about. -/
def Contact.event? (k : Contact σ) : Option RunEvent :=
  match k.deed with
  | .told e => some e
  | _ => none

namespace Host

/-- What comes of asking a host. -/
inductive Makes (h : Host σ) : Contact σ → Prop where
  | told (e : RunEvent) (w : σ) : Makes h ⟨.told e, w, h.deliver e w⟩
  | asked {service : CompletionRequest → σ → Arrival Reply × σ}
      (supplied : h.completion = some service) (q : CompletionRequest) (w : σ) :
      Makes h ⟨.asked q, w, (service q w).2⟩
  | waited (w : σ) : Makes h ⟨.waited, w, (h.interrupts w).2⟩
  | lapsed (w : σ) : Makes h ⟨.lapsed, w, h.lapse w⟩
  | searched {service : Search → σ → Arrival (List Passage) × σ}
      (supplied : h.retrieval = some service) (q : Search) (w : σ) :
      Makes h ⟨.searched q, w, (service q w).2⟩
  | counted {service : UsageRecord → σ → Except Fault Unit × σ} (supplied : h.usage = some service)
      (u : UsageRecord) (w : σ) : Makes h ⟨.counted u, w, (service u w).2⟩
  | drew (bound : Nat) (w : σ) : Makes h ⟨.drew bound, w, (h.draw bound w).2⟩

/-- Contacts that follow one another lead from one world to another. -/
inductive Leads (h : Host σ) : σ → List (Contact σ) → σ → Prop where
  | nil (w : σ) : Leads h w [] w
  | cons {k : Contact σ} {ks : List (Contact σ)} {w : σ} (makes : h.Makes k)
      (rest : Leads h k.after ks w) : Leads h k.before (k :: ks) w

/-- A run that was cancelled stays so, whatever the host is asked. -/
def Lasting (h : Host σ) : Prop :=
  ∀ k, h.Makes k → h.cancelled k.before = true → h.cancelled k.after = true

namespace Leads

variable {h : Host σ} {w w' w'' : σ} {k : Contact σ} {ks ks' : List (Contact σ)}

theorem single (hk : h.Makes k) : h.Leads k.before [k] k.after := .cons hk (.nil _)

theorem append (hks : h.Leads w ks w') (hks' : h.Leads w' ks' w'') : h.Leads w (ks ++ ks') w'' := by
  induction hks with
  | nil => exact hks'
  | cons makes _ ih => exact .cons makes (ih hks')

/-- Contacts can be parted at any point. -/
theorem parts (hks : h.Leads w (ks ++ ks') w'') : ∃ w', h.Leads w ks w' ∧ h.Leads w' ks' w'' := by
  induction ks generalizing w with
  | nil => exact ⟨w, .nil w, hks⟩
  | cons k ks ih =>
    cases hks with
    | cons makes rest =>
      obtain ⟨w', hfirst, hrest⟩ := ih rest
      exact ⟨w', .cons makes hfirst, hrest⟩

/-- After a run was cancelled, everything asked is asked in a world that is cancelled. -/
theorem cancelled (hlasting : h.Lasting) (hks : h.Leads w ks w') (hw : h.cancelled w = true) :
    (∀ k ∈ ks, h.cancelled k.before = true) ∧ h.cancelled w' = true := by
  induction hks with
  | nil => exact ⟨fun _ hk => absurd hk List.not_mem_nil, hw⟩
  | cons makes _ ih =>
    obtain ⟨hall, hend⟩ := ih (hlasting _ makes hw)
    refine ⟨fun k hk => ?_, hend⟩
    rcases List.mem_cons.mp hk with rfl | hk
    · exact hw
    · exact hall k hk

end Leads

end Host

/-! ## 2. Records -/

/-- A world, and the contacts that led to it, in order. -/
structure Record (σ : Type) where
  world : σ
  contacts : List (Contact σ) := []

namespace Record

/-- The record after one more contact, which leads to a world. -/
def note (r : Record σ) (deed : Deed) (world : σ) : Record σ :=
  { world, contacts := r.contacts ++ [{ deed, before := r.world, after := world }] }

/-- A service of the host whose use is noted. -/
def noting (deed : Deed) (service : σ → α × σ) : Record σ → α × Record σ := fun r =>
  let (a, world) := service r.world
  (a, r.note deed world)

/-- The events that the host was told about. -/
def events (r : Record σ) : List RunEvent := r.contacts.filterMap Contact.event?

end Record

/-- A host that keeps a record besides. -/
def Host.recorded (h : Host σ) : Host (Record σ) where
  cancelled r := h.cancelled r.world
  deliver e r := r.note (.told e) (h.deliver e r.world)
  completion := h.completion.map fun service q => Record.noting (.asked q) (service q)
  interrupts := Record.noting .waited h.interrupts
  lapse r := r.note .lapsed (h.lapse r.world)
  retrieval := h.retrieval.map fun service q => Record.noting (.searched q) (service q)
  usage := h.usage.map fun service u => Record.noting (.counted u) (service u)
  draw bound := Record.noting (.drew bound) (h.draw bound)

/-- The same frame with a host that keeps a record. -/
def Frame.recorded (c : Frame σ) : Frame (Record σ) where
  graph := c.graph
  engine := c.engine
  settings := c.settings
  host := c.host.recorded
  executionId := c.executionId

@[simp] theorem Frame.recorded_completion (c : Frame σ) : c.recorded.host.completion =
    c.host.completion.map fun service q => Record.noting (.asked q) (service q) := rfl

theorem Frame.recorded_completion_of_some {c : Frame σ}
    {service : CompletionRequest → σ → Arrival Reply × σ} (h : c.host.completion = some service) :
    c.recorded.host.completion = some fun q => Record.noting (.asked q) (service q) := by
  rw [recorded_completion, h]
  rfl

/-- A session without the record. -/
def Session.bare (s : Session (Record σ)) : Session σ where
  state := s.state
  resolver := s.resolver
  world := s.world.world

end Workgraph
