import Workgraph.Proofs.Course
import Workgraph.Proofs.SoundRun

/-!
# Cancelling a run

A run looks at the host before it does something new, and only then: before each node, before each
request to the model and before each search. This file says that these looks are enough. At
whichever point a run is cancelled, nothing new begins after it, and the run does not complete.

* `Deed.begins` marks what is new. `Record.Guarded` says of a record that all of it was begun while
  the run was not cancelled; one stay keeps this (`Stay.left_guarded`), and so does a whole course
  (`Course.guarded`).
* `Course.failed_of_cancelled` says how a course can end in a world that is cancelled.
* `WindsDown` is the account of what comes after the point at which a run was cancelled.

That a host does not take a cancellation back is assumed; which of two ready answers a wait takes is
left to the host.
-/

namespace Workgraph

variable {σ : Type}

/-! ## 1. Records of what was begun -/

/-- Whether something new begins: a node, a request to the model, or a search. -/
def Deed.begins : Deed → Bool
  | .told e => match e.happening with
    | .nodeStarted _ _ _ => true
    | _ => false
  | .asked _ | .searched _ => true
  | _ => false

/-- The world to which some contacts lead. -/
def Contact.worldAfter (w : σ) (ks : List (Contact σ)) : σ := ks.foldl (fun _ k => k.after) w

theorem Host.Leads.eq_worldAfter {h : Host σ} {w w' : σ} {ks : List (Contact σ)}
    (hks : h.Leads w ks w') : w' = Contact.worldAfter w ks := by
  induction hks with
  | nil => rfl
  | cons _ _ ih => exact ih

/-- **A record in which nothing began after the run was cancelled.** -/
structure Record.Guarded (h : Host σ) (w : σ) (r : Record σ) : Prop where
  /-- The contacts lead to the world of the record. -/
  leads : h.Leads w r.contacts r.world
  running : ∀ k ∈ r.contacts, k.deed.begins = true → h.cancelled k.before = false

namespace Record.Guarded

variable {h : Host σ} {w : σ} {r r' : Record σ}

theorem grow {ks : List (Contact σ)} (hr : r.Guarded h w) (hks : r'.contacts = r.contacts ++ ks)
    (hleads : h.Leads r.world ks r'.world)
    (hrunning : ∀ k ∈ ks, k.deed.begins = true → h.cancelled k.before = false) :
    r'.Guarded h w := by
  constructor
  · rw [hks]
    exact hr.leads.append hleads
  · intro k hk
    rw [hks] at hk
    rcases List.mem_append.mp hk with hk | hk
    · exact hr.running k hk
    · exact hrunning k hk

/-- A run that was cancelled at some point is so in the end. -/
theorem cancelled_of_prefix (hr : r.Guarded h w) (hlasting : h.Lasting) {ks : List (Contact σ)}
    (hks : ks <+: r.contacts) (hcancelled : h.cancelled (Contact.worldAfter w ks) = true) :
    h.cancelled r.world = true := by
  obtain ⟨rest, hrest⟩ := hks
  have hleads := hr.leads
  rw [← hrest] at hleads
  obtain ⟨w', hearlier, hlater⟩ := hleads.parts
  obtain rfl := hearlier.eq_worldAfter
  exact (hlater.cancelled hlasting hcancelled).2

/-- From the point at which a run was cancelled nothing begins. -/
theorem quiet (hr : r.Guarded h w) (hlasting : h.Lasting) {earlier later : List (Contact σ)}
    (hsplit : r.contacts = earlier ++ later)
    (hcancelled : h.cancelled (Contact.worldAfter w earlier) = true) :
    ∀ k ∈ later, k.deed.begins = false := by
  have hleads := hr.leads
  rw [hsplit] at hleads
  obtain ⟨w', hearlier, hlater⟩ := hleads.parts
  obtain rfl := hearlier.eq_worldAfter
  intro k hk
  have hbefore := (hlater.cancelled hlasting hcancelled).1 k hk
  cases hbegins : k.deed.begins with
  | false => rfl
  | true =>
    have hrunning := hr.running k (hsplit ▸ List.mem_append_right _ hk) hbegins
    rw [hbefore] at hrunning
    cases hrunning

end Record.Guarded

/-! ## 2. Stays and courses -/

/-- What the executor of a node begins, it begins while the run is not cancelled. -/
theorem Contact.Within.running {c : Frame σ} {nodeId : String} {k : Contact σ}
    (h : k.Within c nodeId) (hbegins : k.deed.begins = true) :
    c.host.cancelled k.before = false := by
  unfold Contact.Within at h
  cases hdeed : k.deed with
  | told e =>
    rw [hdeed] at h hbegins
    cases hhappening : e.happening <;> simp_all [Deed.begins, Happening.Within]
  | asked q =>
    rw [hdeed] at h
    exact h
  | searched q =>
    rw [hdeed] at h
    exact h
  | _ =>
    rw [hdeed] at hbegins
    cases hbegins

/-- A stay begins nothing after the run was cancelled. -/
theorem Stay.left_guarded {c : Frame σ} {v : Stay (Record σ)} {w : σ}
    (running : c.host.cancelled v.reached.world.world = false)
    (h : v.reached.world.Guarded c.host w) : (v.left c.recorded).world.Guarded c.host w := by
  refine h.grow (v.left_contacts c) (v.leads c) fun k hk hbegins => ?_
  rcases List.mem_append.mp hk with hk | hk
  · rcases List.mem_cons.mp hk with rfl | hk
    · exact running
    · exact ((v.work_contacts c).2.2 k hk).running hbegins
  · unfold Stay.exit at hk
    split at hk
    · rw [List.mem_singleton.mp hk] at hbegins
      cases hbegins
    · exact absurd hk List.not_mem_nil

namespace Course

variable {left : Nat} {o : RunOutcome}

/-- Nor does a course; and each of its nodes began while the run was not cancelled. -/
theorem guarded {c : Frame σ} {v : Stay (Record σ)} {vs : List (Stay (Record σ))}
    {s : Session (Record σ)} {w : σ} (h : Course c.recorded left v vs o s)
    (hv : v.reached.world.Guarded c.host w) : s.world.Guarded c.host w ∧
      ∀ u ∈ vs, c.host.cancelled u.reached.world.world = false ∧
        u.reached.world.Guarded c.host w := by
  induction h with
  | cancelled => exact ⟨hv, fun _ hu => absurd hu List.not_mem_nil⟩
  | exhausted => exact ⟨hv, fun _ hu => absurd hu List.not_mem_nil⟩
  | failed running | interrupted running | ended running =>
    exact ⟨Stay.left_guarded running hv, List.forall_mem_singleton.mpr ⟨running, hv⟩⟩
  | passes running _ _ _ _ ih =>
    obtain ⟨hs, hall⟩ := ih (Stay.left_guarded running hv)
    exact ⟨hs, List.forall_mem_cons.mpr ⟨⟨running, hv⟩, hall⟩⟩

/-- A course that ends in a world that is cancelled is cancelled, unless its last node failed with
another fault. -/
theorem failed_of_cancelled {d : Frame σ} {v : Stay σ} {vs : List (Stay σ)} {s : Session σ}
    (h : Course d left v vs o s) (hend : d.host.cancelled s.world = true) :
    o = .cancelled ∨ ∃ u ∈ vs, ∃ f, u.answer d = .error f ∧ f.isCancelled = false ∧
      o = .failed u.node.id f.message ∧ s = u.left d := by
  induction h with
  | cancelled => exact Or.inl rfl
  | exhausted running =>
    rw [running] at hend
    cases hend
  | @failed _ v f _ answer =>
    cases hf : f.isCancelled with
    | true => exact Or.inl (if_pos hf)
    | false =>
      have ho : RunOutcome.ofFault v.node.id f = .failed v.node.id f.message := by
        unfold RunOutcome.ofFault
        rw [hf, if_neg Bool.false_ne_true]
      exact Or.inr ⟨v, List.mem_singleton_self v, f, answer, hf, ho, rfl⟩
  | interrupted => exact Or.inl rfl
  | ended _ _ runs =>
    rw [runs] at hend
    cases hend
  | passes _ _ _ _ _ ih =>
    rcases ih hend with ho | ⟨u, hu, hfailed⟩
    · exact Or.inl ho
    · exact Or.inr ⟨u, List.mem_cons_of_mem _ hu, hfailed⟩

end Course

/-! ## 3. The account -/

/-- The point after some contacts lies within a stay: the node had begun, and its executor had not
come further. -/
def Stay.Spans (c : Frame σ) (v : Stay (Record σ)) (ks : List (Contact σ)) : Prop :=
  v.reached.world.contacts ++ [v.entry c] <+: ks ∧ ks <+: (v.work c.recorded).2.world.contacts

/-- When a run was cancelled before the executor of a node ended, and the node began nevertheless,
it was cancelled within the stay. -/
theorem Stay.spans {c : Frame σ} {v : Stay (Record σ)} {w : σ} {ks : List (Contact σ)}
    (running : c.host.cancelled v.reached.world.world = false)
    (hv : v.reached.world.Guarded c.host w) (hlasting : c.host.Lasting)
    (hcancelled : c.host.cancelled (Contact.worldAfter w ks) = true)
    (hks : ks <+: (v.work c.recorded).2.world.contacts) : v.Spans c ks := by
  have hbegun :
      v.reached.world.contacts ++ [v.entry c] <+: (v.work c.recorded).2.world.contacts := by
    refine ⟨v.inner c, ?_⟩
    rw [(v.work_contacts c).1, List.append_assoc]
    rfl
  refine ⟨?_, hks⟩
  rcases List.prefix_or_prefix_of_prefix hbegun hks with hentered | hentered
  · exact hentered
  · rcases List.prefix_concat_iff.mp hentered with rfl | hbefore
    · exact List.prefix_rfl
    · have hreached := hv.cancelled_of_prefix hlasting hbefore hcancelled
      rw [running] at hreached
      cases hreached

/-- **How a run goes on after the point at which it was cancelled.** -/
structure WindsDown (c : Frame σ) (r : RunResult) (stays : List (Stay (Record σ)))
    (earlier later : List (Contact σ)) : Prop where
  /-- No node begins any more, the model is not asked, and no knowledge store is searched. -/
  quiet : ∀ k ∈ later, k.deed.begins = false
  /-- The run is cancelled, unless the node that was in progress failed with another fault. -/
  outcome : r.outcome = .cancelled ∨ ∃ v ∈ stays, v.Spans c earlier ∧ ∃ f,
    v.answer c.recorded = .error f ∧ f.isCancelled = false ∧
      r.outcome = .failed v.node.id f.message

/-- **Cancellation is safe.** At whichever point before its last event a run was cancelled, it winds
down from there. -/
theorem runGraph_windsDown (c : Frame σ) (state : RunState) (world : σ) {start : Node}
    (h : c.graph.startNode? = some start) (hlasting : c.host.Lasting) :
    ∃ r record stays, RecordedRun c start state world r record stays ∧
      ∀ earlier later, record.contacts = earlier ++ later → later ≠ [] →
        c.host.cancelled (Contact.worldAfter world earlier) = true →
        WindsDown c r stays earlier later := by
  obtain ⟨r, record, stays, hrun⟩ := exists_recordedRun h state world
  obtain ⟨s, hcourse, -, hrecord⟩ := hrun.course
  have hopening : (Stay.first c start state world).reached.world.Guarded c.host world := by
    refine ⟨.single (.told _ _), fun k hk hbegins => ?_⟩
    rw [List.mem_singleton.mp hk] at hbegins
    cases hbegins
  obtain ⟨hs, hstays⟩ := hcourse.guarded hopening
  have hguarded : record.Guarded c.host world := by
    rw [hrecord]
    refine hs.grow rfl (.single (.told _ _)) fun k hk hbegins => ?_
    rw [List.mem_singleton.mp hk] at hbegins
    cases ho : r.outcome <;> rw [ho] at hbegins <;> cases hbegins
  refine ⟨r, record, stays, hrun, fun earlier later hsplit hlater hcancelled => ?_⟩
  refine ⟨hguarded.quiet hlasting hsplit hcancelled, ?_⟩
  -- the last event is not part of the session in which the course ends
  have hprefix : earlier <+: s.world.contacts := by
    have hall : earlier <+: record.contacts := ⟨later, hsplit.symm⟩
    rw [hrecord] at hall
    rcases List.prefix_concat_iff.mp hall with heq | hprefix
    · rw [heq, hrecord] at hsplit
      exact absurd (List.self_eq_append_right.mp hsplit) hlater
    · exact hprefix
  have hend : c.host.cancelled s.world.world = true :=
    hs.cancelled_of_prefix hlasting hprefix hcancelled
  rcases hcourse.failed_of_cancelled hend with ho | ⟨v, hv, f, hanswer, hf, ho, hleft⟩
  · exact Or.inl ho
  · rw [hleft, v.left_of_error hanswer] at hprefix
    obtain ⟨running, hv'⟩ := hstays v hv
    exact Or.inr ⟨v, hv, v.spans running hv' hlasting hcancelled hprefix, f, hanswer, hf, ho⟩

namespace Rehearsal

theorem complete_cancelled {q : CompletionRequest} {r : Rehearsal} (h : r.cancelled = true) :
    (complete q r).2.cancelled = true := by
  unfold complete
  cases r.model with
  | nil => exact h
  | cons next model =>
    obtain ⟨cancels, cue⟩ := next
    have hkept : (r.cancelled || cancels) = true := by rw [h, Bool.true_or]
    cases cue with
    | hang => rfl
    | _ => exact hkept

theorem retrieve_cancelled {q : Search} {r : Rehearsal} (h : r.cancelled = true) :
    (retrieve q r).2.cancelled = true := by
  unfold retrieve
  cases r.store with
  | nil => exact h
  | cons cue store =>
    cases cue with
    | stall => rfl
    | _ => exact h

/-- A rehearsal does not take a cancellation back. -/
theorem host_lasting (hasModel hasStore hasUsage : Bool) :
    (host hasModel hasStore hasUsage).Lasting := by
  intro k hk hbefore
  cases hk with
  | told e w => exact Bool.or_eq_true_iff.mpr (Or.inl hbefore)
  | asked supplied q w =>
    obtain ⟨-, supplied⟩ := Option.ite_none_right_eq_some.mp supplied
    obtain rfl := Option.some.inj supplied
    exact complete_cancelled hbefore
  | waited w => exact hbefore
  | lapsed w => rfl
  | searched supplied q w =>
    obtain ⟨-, supplied⟩ := Option.ite_none_right_eq_some.mp supplied
    obtain rfl := Option.some.inj supplied
    exact retrieve_cancelled hbefore
  | counted supplied u w =>
    obtain ⟨-, supplied⟩ := Option.ite_none_right_eq_some.mp supplied
    obtain rfl := Option.some.inj supplied
    exact hbefore
  | drew bound w => exact hbefore

end Rehearsal

/-- The run is cancelled while the model answers with a call of a tool. -/
def abandoned : Rehearsal :=
  { model := [(true, .whole { toolCalls := [⟨"1", "search", .object []⟩] })] }

theorem assistant_windsDown : ∃ start, assistant.startNode? = some start ∧
    assistant.rehearsal.host.Lasting ∧ ∃ r record stays,
      RecordedRun assistant.rehearsal start {} abandoned r record stays ∧
        ∀ earlier later, record.contacts = earlier ++ later → later ≠ [] →
          assistant.rehearsal.host.cancelled (Contact.worldAfter abandoned earlier) = true →
          WindsDown assistant.rehearsal r stays earlier later :=
  ⟨⟨"start", .start, .initial .start⟩, rfl, Rehearsal.host_lasting true true true,
    runGraph_windsDown assistant.rehearsal {} abandoned rfl (Rehearsal.host_lasting true true true)⟩

end Workgraph
