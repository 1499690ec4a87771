import Mathlib.Algebra.GroupWithZero.Nat
import Workgraph.Proofs.Failure
import Workgraph.Proofs.Hearing

/-!
# Reported usage

A completion node adds up what its responses report and bills it once, at its end: an event to the
host, and a record to the sink if the host has one.

* `Usage.Totals` says of a usage that it is the total of some reports, each count on its own;
  `Usage.tallyAll_cases` reads the tally of an exchange as such a total.
* `Record.bills` are the usage events and usage records of a record. Nothing but the end of an
  exchange bills: all other steps are the same in a host to which usage cannot be reported at all
  (`Frame.withoutBills`).
* `Billing` is the account of a completion node. `execute_billing` says that it holds wherever such
  a node is executed, `execute_billsInFull` what it comes to when the node succeeds, and
  `execute_failedBilling` when it fails: then the responses heard so far are not billed, unless the
  sink itself refuses the record.
-/

namespace Workgraph

open Exec Tools

variable {σ : Type}

/-! ## 1. Totals -/

/-- What some responses report. -/
def CompletionResponse.reports (rs : List CompletionResponse) : List Usage := rs.filterMap (·.usage)

namespace Usage

/-- The sum of a count over some reports. -/
def sumOf (count : Usage → UInt64) (reports : List Usage) : Nat :=
  (reports.map fun u => (count u).toNat).sum

/-- **A usage is the total of some reports**: each count is their sum, as far as it can be written
as a count, and the cost is unknown if all of theirs are. -/
structure Totals (u : Usage) (reports : List Usage) : Prop where
  prompt : sumOf promptTokens reports < 2 ^ 64 →
    u.promptTokens.toNat = sumOf promptTokens reports
  completion : sumOf completionTokens reports < 2 ^ 64 →
    u.completionTokens.toNat = sumOf completionTokens reports
  total : sumOf totalTokens reports < 2 ^ 64 → u.totalTokens.toNat = sumOf totalTokens reports
  cost : u.cost = none ↔ ∀ v ∈ reports, v.cost = none

/-- What adds up word by word adds up as a number, as long as it fits in a word. -/
theorem toNat_foldl_add {count : Usage → UInt64}
    (hadd : ∀ u v : Usage, count (u.add v) = count u + count v) (reports : List Usage) (u : Usage)
    (hfits : (count u).toNat + sumOf count reports < 2 ^ 64) :
    (count (reports.foldl add u)).toNat = (count u).toNat + sumOf count reports := by
  induction reports generalizing u with
  | nil => rfl
  | cons v reports ih =>
    have hsum : sumOf count (v :: reports) = (count v).toNat + sumOf count reports := rfl
    have hhead : (count (u.add v)).toNat = (count u).toNat + (count v).toNat := by
      rw [hadd, UInt64.toNat_add]
      omega
    rw [List.foldl_cons, ih (u.add v) (by omega), hhead, hsum, Nat.add_assoc]

theorem addCost_eq_none {a b : Option Binary64} : addCost a b = none ↔ a = none ∧ b = none := by
  cases a with
  | none => exact ⟨fun h => ⟨rfl, h⟩, fun h => h.2⟩
  | some x => cases b <;> exact ⟨nofun, fun h => nomatch h.1⟩

theorem cost_foldl_add (reports : List Usage) (u : Usage) :
    (reports.foldl add u).cost = none ↔ u.cost = none ∧ ∀ v ∈ reports, v.cost = none := by
  induction reports generalizing u with
  | nil => exact ⟨fun h => ⟨h, fun _ hv => absurd hv List.not_mem_nil⟩, fun h => h.1⟩
  | cons v reports ih =>
    have hhead : (u.add v).cost = none ↔ u.cost = none ∧ v.cost = none := addCost_eq_none
    rw [List.foldl_cons, ih, hhead, and_assoc, List.forall_mem_cons]

theorem toNat_total {count : Usage → UInt64}
    (hadd : ∀ u v : Usage, count (u.add v) = count u + count v) (hzero : (count {}).toNat = 0)
    {reports : List Usage} (hfits : sumOf count reports < 2 ^ 64) :
    (count (reports.foldl add {})).toNat = sumOf count reports := by
  have hsum := toNat_foldl_add hadd reports {} (by omega)
  rwa [hzero, Nat.zero_add] at hsum

theorem totals_foldl_add (reports : List Usage) : (reports.foldl add {}).Totals reports where
  prompt := toNat_total (fun _ _ => rfl) rfl
  completion := toNat_total (fun _ _ => rfl) rfl
  total := toNat_total (fun _ _ => rfl) rfl
  cost := by
    rw [cost_foldl_add]
    exact and_iff_right rfl

theorem tallyAll_some (u : Usage) (rs : List CompletionResponse) :
    tallyAll (some u) rs = some ((CompletionResponse.reports rs).foldl add u) := by
  induction rs generalizing u with
  | nil => rfl
  | cons r rs ih =>
    unfold tallyAll CompletionResponse.reports at ih ⊢
    rw [List.foldl_cons, List.filterMap_cons]
    cases r.usage with
    | none => exact ih u
    | some v => exact ih (u.add v)

/-- **The tally of an exchange** is the total of what was reported, if anything was. -/
theorem tallyAll_cases (rs : List CompletionResponse) :
    (tallyAll none rs = none ∧ CompletionResponse.reports rs = []) ∨
      ∃ u, tallyAll none rs = some u ∧ u.Totals (CompletionResponse.reports rs) ∧
        CompletionResponse.reports rs ≠ [] := by
  induction rs with
  | nil => exact .inl ⟨rfl, rfl⟩
  | cons r rs ih =>
    have htally : tallyAll none (r :: rs) = tallyAll (tally none r.usage) rs := rfl
    unfold CompletionResponse.reports at ih ⊢
    rw [htally, List.filterMap_cons]
    cases r.usage with
    | none => exact ih
    | some v => exact .inr ⟨_, tallyAll_some _ rs, totals_foldl_add (v :: _), List.cons_ne_nil _ _⟩

end Usage

/-! ## 2. Bills -/

/-- Whether an event reports usage. -/
def Happening.bills : Happening → Bool
  | .usage _ _ _ => true
  | _ => false

/-- Whether usage is reported, to the host or to its sink. -/
def Deed.bills : Deed → Bool
  | .told e => e.happening.bills
  | .counted _ => true
  | _ => false

/-- The reports of usage in a record. -/
def Record.bills (r : Record σ) : List Deed := (r.contacts.map (·.deed)).filter Deed.bills

theorem Record.bills_note (r : Record σ) (deed : Deed) (w : σ) :
    (r.note deed w).bills = r.bills ++ [deed].filter Deed.bills := by
  unfold bills note
  rw [List.map_append, List.filter_append]
  rfl

theorem Record.bills_note_of_false {deed : Deed} (h : deed.bills = false) (r : Record σ) (w : σ) :
    (r.note deed w).bills = r.bills := by
  rw [bills_note, List.filter_singleton, h]
  exact List.append_nil _

/-- The reports of a usage, if there is one. -/
def Frame.bill (c : Frame σ) (nodeId model : String) : Option Usage → List Deed
  | none => []
  | some usage => .told (c.event (.usage nodeId model usage)) ::
      (if c.host.usage.isSome then [.counted { model, usage }] else [])

/-- A frame whose host cannot be told of usage. -/
def Frame.withoutBills (c : Frame σ) : Frame σ :=
  { c with host := { c.host with
      deliver := fun e w => if e.happening.bills then w else c.host.deliver e w
      usage := none } }

/-- Such a host is asked for nothing that reports usage. -/
theorem Host.Makes.of_withoutBills {c : Frame σ} {k : Contact σ}
    (h : c.withoutBills.host.Makes k) :
    k.after = k.before ∨ (c.host.Makes k ∧ k.deed.bills = false) := by
  cases h with
  | told e w =>
    cases hbills : e.happening.bills with
    | true => exact .inl (if_pos hbills)
    | false =>
      have hdeliver : c.withoutBills.host.deliver e w = c.host.deliver e w :=
        if_neg (Bool.not_eq_true _ ▸ hbills)
      rw [hdeliver]
      exact .inr ⟨.told e w, hbills⟩
  | asked supplied q w => exact .inr ⟨.asked (h := c.host) supplied q w, rfl⟩
  | waited w => exact .inr ⟨.waited w, rfl⟩
  | lapsed w => exact .inr ⟨.lapsed w, rfl⟩
  | searched supplied q w => exact .inr ⟨.searched (h := c.host) supplied q w, rfl⟩
  | counted supplied => cases supplied
  | drew bound w => exact .inr ⟨.drew bound w, rfl⟩

/-- Nothing was billed between two sessions. -/
def Session.SameBills (s t : Session (Record σ)) : Prop := t.world.bills = s.world.bills

theorem Session.sameBills_of_makes {c : Frame σ} {s : Session (Record σ)} {deed : Deed}
    {r : Record σ} (h : c.recorded.withoutBills.host.Makes ⟨deed, s.world, r⟩) :
    s.SameBills { s with world := r } := by
  unfold SameBills
  rcases h.of_withoutBills with hsame | ⟨hmakes, hbills⟩
  · exact congrArg Record.bills hsame
  · obtain ⟨w, -, hw⟩ := hmakes.recorded
    rw [hw]
    exact Record.bills_note_of_false hbills s.world w

theorem Frame.admits_sameBills (c : Frame σ) :
    c.recorded.withoutBills.Admits Session.SameBills where
  refl _ := rfl
  trans h h' := h'.trans h
  resolver _ _ := rfl
  world hmakes _ := Session.sameBills_of_makes hmakes

theorem Frame.admitsRequests_sameBills (c : Frame σ) :
    c.recorded.withoutBills.AdmitsRequests Session.SameBills :=
  fun hmakes => Session.sameBills_of_makes hmakes

theorem allows_sameBills (writes : Operation → Prop) :
    Allows (Session.SameBills (σ := σ)) writes := fun _ _ _ => rfl

/-! ## 3. Who bills -/

namespace Exec

/-- No part of an exchange reports usage. -/
theorem speaksAlike_withoutBills (c : Frame σ) : c.SpeaksAlike c.withoutBills where
  trace := rfl
  delta := rfl
  checkCancelled := rfl
  callTool := rfl
  interrupts := rfl
  lapse := rfl

theorem gatherTools_withoutBills (c : Frame σ) : gatherTools c.withoutBills = gatherTools c := by
  have hspeaks := speaksAlike_withoutBills c
  funext nodeId
  unfold gatherTools
  simp only [hspeaks.read, hspeaks.trace]
  rfl

variable {c : Frame σ} {nodeId model : String}

theorem gatherTools_sameBills : Keeps Session.SameBills (gatherTools c.recorded nodeId) := by
  rw [← gatherTools_withoutBills]
  exact gatherTools_keeps c.admits_sameBills nodeId (allows_sameBills _)

/-- The rounds of an exchange bill nothing. -/
theorem Exchange.Heard.sameBills {x : Exchange σ} (hservice : c.host.completion = some x.complete)
    {left : Nat} {messages : List Message} {s t : Session (Record σ)}
    {rs : List CompletionResponse} {o : Except Fault CompletionResponse}
    (h : x.recorded.Heard c.recorded left messages s rs o t) : s.SameBills t := by
  have hrecorded : c.recorded.withoutBills.host.completion = some x.recorded.complete :=
    Frame.recorded_completion_of_some hservice
  refine h.within c.admits_sameBills.trans (fun messages tools => ?_) fun calls => ?_
  · rw [← (speaksAlike_withoutBills c.recorded).askModel]
    exact askModel_keeps c.admits_sameBills c.admitsRequests_sameBills hrecorded messages tools
  · rw [← (speaksAlike_withoutBills c.recorded).answerCalls]
    exact answerCalls_keeps c.admits_sameBills x.nodeId (allows_sameBills _) x.tools calls

end Exec

/-! ## 4. The account of a completion node -/

/-- The last thing that a host was asked was to record usage, and it refused with a fault. -/
def Host.Refused (h : Host σ) (r : Record σ) (u : UsageRecord) (f : Fault) : Prop :=
  ∃ service k, h.usage = some service ∧ r.contacts.getLast? = some k ∧ k.deed = .counted u ∧
    (service u k.before).1 = .error f

/-- **How a completion node bills**: what is heard, what is billed, and how the node ended. -/
inductive Billing {α : Type} (c : Frame σ) (nodeId model : String) (result : Except Fault α)
    (r : Record σ) : Prop
  /-- All requests were replied to, and the total of the responses is billed. -/
  | inFull {rs : List CompletionResponse} (heard : List.Forall₂ c.host.Replied r.asked rs)
      (billed : r.bills = c.bill nodeId model (Usage.tallyAll none rs))
      (fails : ∀ f, result = .error f →
        ∃ usage, Usage.tallyAll none rs = some usage ∧ c.host.Refused r ⟨model, usage⟩ f)
  /-- The node failed before its exchange ended, and nothing is billed of what it heard. -/
  | brokenOff {f : Fault} {rs : List CompletionResponse} {ks late : List (Contact σ)}
      (asked : r.asked = ks ++ late) (heard : List.Forall₂ c.host.Replied ks rs)
      (unheard : late.length ≤ 1) (billed : r.bills = []) (fails : result = .error f)

/-- What a step succeeds with makes no difference. -/
theorem Billing.map {α β : Type} {c : Frame σ} {nodeId model : String} {result : Except Fault α}
    {r : Record σ} (h : Billing c nodeId model result r) (g : α → β) :
    Billing c nodeId model (result.map g) r := by
  cases h with
  | inFull heard billed fails =>
    refine .inFull heard billed fun f hf => fails f ?_
    cases result with
    | ok a => cases hf
    | error f' => exact congrArg Except.error (Except.error.inj hf)
  | brokenOff asked heard unheard billed fails =>
    exact .brokenOff asked heard unheard billed (by rw [fails]; rfl)

namespace Exec

variable {c : Frame σ} {nodeId model : String} {b : CompletionBody} {s t : Session (Record σ)}
  {result : Except Fault Unit}

/-- Reporting usage is what bills it, and can fail only by the answer of the sink. -/
theorem reportUsage_bills {usage : Option Usage}
    (h : settle (reportUsage c.recorded nodeId model usage) s = (result, t)) :
    t.world.bills = s.world.bills ++ c.bill nodeId model usage ∧
      ∀ f, result = .error f → ∃ u, usage = some u ∧ c.host.Refused t.world ⟨model, u⟩ f := by
  cases usage with
  | none =>
    cases h
    exact ⟨(List.append_nil _).symm, nofun⟩
  | some u =>
    have hemit : settle (emit c.recorded (.usage nodeId model u)) s = (.ok (), { s with
      world := c.recorded.host.deliver (c.event (.usage nodeId model u)) s.world }) := rfl
    have hsink : c.recorded.host.usage =
      c.host.usage.map fun service u => Record.noting (.counted u) (service u) := rfl
    unfold reportUsage at h
    rw [settle_bind_of_ok hemit, hsink] at h
    unfold Frame.bill
    cases hservice : c.host.usage with
    | none =>
      rw [hservice] at h
      cases h
      exact ⟨Record.bills_note .., nofun⟩
    | some service =>
      rw [hservice] at h
      dsimp only [Option.map_some] at h
      rw [settle_bind_of_ok (settle_ask ..), settle_ofExcept] at h
      obtain ⟨hanswer, rfl⟩ := Prod.mk.inj h
      refine ⟨?_, fun f hf => ⟨u, rfl, service, _, hservice, List.getLast?_concat, rfl,
        hanswer.trans hf⟩⟩
      show ((s.world.note _ _).note _ _).bills = _
      rw [Record.bills_note, Record.bills_note, List.append_assoc]
      rfl

/-- What a node with its tools bills, when nothing was asked before. -/
theorem consult_billing (x : Exchange σ) (hservice : c.host.completion = some x.complete)
    (hasked : s.world.asked = []) (hbills : s.world.bills = [])
    (h : settle (consult c.recorded x.nodeId x.body x.recorded.complete x.tools) s = (result, t)) :
    Billing c x.nodeId x.body.model result t.world := by
  replace h : settle (rounds c.recorded x.recorded (x.body.roundLimit c.settings)
      (x.body.openingMessages s.state s.state.payload.asPrompt) none >>=
      conclude c.recorded x.nodeId x.body s.state.payload.asPrompt) s = (result, t) := h
  cases hrounds : settle (rounds c.recorded x.recorded (x.body.roundLimit c.settings)
      (x.body.openingMessages s.state s.state.payload.asPrompt) none) s with
  | mk ending u =>
    obtain ⟨rs, o, hheard, rfl⟩ := rounds_heard x.recorded _ hrounds
    obtain ⟨ks, late, hks, hreplied, hlate, hend⟩ := hheard.replied hservice
    have hsame : u.world.bills = [] := (hheard.sameBills hservice).trans hbills
    rw [hasked, List.nil_append] at hks
    cases o with
    | error f =>
      rw [settle_bind_of_error hrounds] at h
      cases h
      exact .brokenOff hks hreplied hlate hsame rfl
    | ok r =>
      rw [settle_bind_of_ok hrounds] at h
      have hconclude : t.world.asked = u.world.asked :=
        (conclude_keeps c.admits_sameRequests x.nodeId x.body (allows_sameRequests _) _ _).related h
      rw [settle_conclude] at h
      obtain ⟨hbilled, hfails⟩ := reportUsage_bills h
      rw [hend r rfl, List.append_nil] at hks
      refine .inFull ?_ ?_ hfails
      · rwa [hconclude, hks]
      · exact hbilled.trans (by rw [hsame]; rfl)

theorem complete_billing (hasked : s.world.asked = []) (hbills : s.world.bills = [])
    (h : settle (complete c.recorded nodeId b) s = (result, t)) :
    Billing c nodeId b.model result t.world := by
  cases hservice : c.host.completion with
  | none =>
    have hnone : c.recorded.host.completion = none := by
      rw [Frame.recorded_completion, hservice]
      rfl
    unfold complete at h
    rw [hnone] at h
    cases h
    exact .brokenOff hasked .nil (Nat.zero_le _) hbills rfl
  | some service =>
    rw [complete_eq (Frame.recorded_completion_of_some hservice)] at h
    cases hgather : settle (gatherTools c.recorded nodeId) s with
    | mk gathered u =>
      have hasked : u.world.asked = [] := ((gatherTools_keeps c.admits_sameRequests nodeId
        (allows_sameRequests _)).related hgather).trans hasked
      have hbills : u.world.bills = [] := (gatherTools_sameBills.related hgather).trans hbills
      cases gathered with
      | error f =>
        rw [settle_bind_of_error hgather] at h
        cases h
        exact .brokenOff hasked .nil (Nat.zero_le _) hbills rfl
      | ok tools =>
        rw [settle_bind_of_ok hgather] at h
        exact consult_billing { nodeId, body := b, tools, complete := service } hservice hasked
          hbills h

/-- **Completion nodes bill in one of two ways**, whatever the model replies and the tools do. -/
theorem execute_billing {n : Node} (hbody : n.data.body = .completion b) {s : Session σ}
    {t : Session (Record σ)} {result : Except Fault Transition}
    (h : settle (execute c.recorded n) s.watched = (result, t)) :
    Billing c n.id b.model result t.world := by
  cases hmuted : n.data.muted with
  | true =>
    rw [settle_execute_muted hmuted] at h
    cases h
    exact .inFull (List.forall₂_nil_right_iff.mpr rfl) rfl nofun
  | false =>
    rw [settle_execute hmuted, hbody, settle_perform_completion] at h
    obtain ⟨rfl, rfl⟩ := Prod.mk.inj h
    exact (complete_billing rfl rfl rfl).map _

/-- What a node that asks the model fails or succeeds with comes with its account. -/
theorem execute_accounted {n : Node} (hbody : n.data.body = .completion b) {s s₁ : Session σ}
    {result : Except Fault Transition} (h : settle (execute c n) s = (result, s₁)) :
    ∃ s', settle (execute c.recorded n) s.watched = (result, s') ∧ s'.bare = s₁ ∧
      Billing c n.id b.model result s'.world := by
  obtain ⟨x, s', hrecorded, hbare, -⟩ := execute_mirrors c s.state.outputs n s.watched rfl
  obtain ⟨rfl, hs'⟩ := Prod.mk.inj (hbare.symm.trans h)
  exact ⟨s', hrecorded, hs', execute_billing hbody hrecorded⟩

end Exec

/-! ## 5. Nodes that succeed -/

theorem CompletionResponse.reports_eq_nil {rs : List CompletionResponse} :
    reports rs = [] ↔ ∀ r ∈ rs, r.usage = none := List.filterMap_eq_nil_iff

/-- **The usage of some responses is billed once and in full**, by an event and by a record if the
host has a sink; nothing is billed when none of them reports usage. -/
structure BilledInFull (c : Frame σ) (nodeId model : String) (rs : List CompletionResponse)
    (bills : List Deed) : Prop where
  nothing : (∀ r ∈ rs, r.usage = none) → bills = []
  once : (∃ r ∈ rs, r.usage ≠ none) → ∃ usage,
    Usage.Totals usage (CompletionResponse.reports rs) ∧
      bills = .told (c.event (.usage nodeId model usage)) ::
        (if c.host.usage.isSome then [.counted { model, usage }] else [])

theorem Frame.bill_inFull (c : Frame σ) (nodeId model : String) (rs : List CompletionResponse) :
    BilledInFull c nodeId model rs (c.bill nodeId model (Usage.tallyAll none rs)) := by
  rcases Usage.tallyAll_cases rs with ⟨hnone, hreports⟩ | ⟨usage, hsome, htotals, hreports⟩
  · rw [hnone]
    have hquiet := CompletionResponse.reports_eq_nil.mp hreports
    exact ⟨fun _ => rfl, fun ⟨r, hr, husage⟩ => absurd (hquiet r hr) husage⟩
  · rw [hsome]
    refine ⟨fun hquiet => ?_, fun _ => ⟨usage, htotals, rfl⟩⟩
    exact absurd (CompletionResponse.reports_eq_nil.mpr hquiet) hreports

/-- **A completion node that succeeds bills its usage once and in full**, whatever the model
replies, in pieces or not, and in however many rounds. -/
theorem execute_billsInFull (c : Frame σ) {n : Node} {b : CompletionBody}
    (hbody : n.data.body = .completion b) {s s₁ : Session σ} {t : Transition}
    (h : settle (execute c n) s = (.ok t, s₁)) :
    ∃ s', settle (execute c.recorded n) s.watched = (.ok t, s') ∧ s'.bare = s₁ ∧
      ∃ rs, List.Forall₂ c.host.Replied s'.world.asked rs ∧
        BilledInFull c n.id b.model rs s'.world.bills := by
  obtain ⟨s', hrecorded, hbare, hbilling⟩ := execute_accounted hbody h
  refine ⟨s', hrecorded, hbare, ?_⟩
  cases hbilling with
  | inFull heard billed =>
    rw [billed]
    exact ⟨_, heard, c.bill_inFull n.id b.model _⟩
  | brokenOff _ _ _ _ fails => cases fails

/-- The response of the first round: it reports usage and calls a tool that is not there. -/
def metered : CompletionResponse where
  toolCalls := [⟨"1", "toss", .object []⟩]
  usage := some { promptTokens := 10, completionTokens := 2, totalTokens := 12 }

/-- The second response arrives in pieces, and its usage is reported twice. -/
def meteredTwice : Session Rehearsal where
  state := {}
  world := { model := [(false, .whole metered), (false, .pieces
    [.ok (.usage { promptTokens := 20 }), .ok (.text "Hello"),
      .ok (.usage { promptTokens := 20, completionTokens := 1, totalTokens := 21 })])] }

theorem soliloquy_billsInFull :
    soliloquy.data.body = .completion {} ∧ ∃ s₁,
    settle (execute monologue.rehearsal soliloquy) meteredTwice = (.ok {}, s₁) ∧
    ∃ s', settle (execute monologue.rehearsal.recorded soliloquy) meteredTwice.watched =
        (.ok {}, s') ∧ s'.bare = s₁ ∧
      ∃ rs, List.Forall₂ monologue.rehearsal.host.Replied s'.world.asked rs ∧
        BilledInFull monologue.rehearsal "ask" "" rs s'.world.bills := by
  have hsucceeds : (settle (execute monologue.rehearsal soliloquy) meteredTwice).1 = .ok {} := by
    decide +kernel
  have hbody : soliloquy.data.body = .completion {} := rfl
  exact ⟨hbody, _, Prod.ext hsucceeds rfl,
    execute_billsInFull monologue.rehearsal hbody (Prod.ext hsucceeds rfl)⟩

/-! ## 6. Nodes that fail -/

/-- **What is billed when a completion node fails.** -/
inductive FailedBilling (c : Frame σ) (nodeId model : String) (f : Fault) (r : Record σ) : Prop
  /-- Nothing, whatever was heard before the exchange broke off: all requests but the last one at
  most were replied to. -/
  | unbilled {rs : List CompletionResponse} {ks late : List (Contact σ)} (billed : r.bills = [])
      (asked : r.asked = ks ++ late) (unheard : late.length ≤ 1)
      (heard : List.Forall₂ c.host.Replied ks rs)
  /-- All of it, when the exchange had ended and the sink refused the record of its usage. -/
  | refused {rs : List CompletionResponse} {usage : Usage}
      (heard : List.Forall₂ c.host.Replied r.asked rs)
      (billed : BilledInFull c nodeId model rs r.bills)
      (refused : c.host.Refused r ⟨model, usage⟩ f)

/-- **A completion node that fails bills nothing** of what it heard, unless its exchange ended and
the sink refused the record of its usage. -/
theorem execute_failedBilling (c : Frame σ) {n : Node} {b : CompletionBody}
    (hbody : n.data.body = .completion b) {s s₁ : Session σ} {f : Fault}
    (h : settle (execute c n) s = (.error f, s₁)) :
    ∃ s', settle (execute c.recorded n) s.watched = (.error f, s') ∧ s'.bare = s₁ ∧
      FailedBilling c n.id b.model f s'.world := by
  obtain ⟨s', hrecorded, hbare, hbilling⟩ := execute_accounted hbody h
  refine ⟨s', hrecorded, hbare, ?_⟩
  cases hbilling with
  | inFull heard billed fails =>
    obtain ⟨usage, -, hrefused⟩ := fails f rfl
    exact .refused heard (billed ▸ c.bill_inFull n.id b.model _) hrefused
  | brokenOff asked heard unheard billed => exact .unbilled billed asked unheard heard

/-- The model reports usage and calls a tool, and fails when it is asked again. -/
def rateLimited : Session Rehearsal where
  state := {}
  world := { model := [(false, .whole metered), (false, .fail (.completion "rate limited"))] }

theorem soliloquy_failedBilling : soliloquy.data.body = .completion {} ∧ ∃ s₁,
    settle (execute monologue.rehearsal soliloquy) rateLimited =
      (.error (.completion "rate limited"), s₁) ∧
    ∃ s', settle (execute monologue.rehearsal.recorded soliloquy) rateLimited.watched =
        (.error (.completion "rate limited"), s') ∧ s'.bare = s₁ ∧
      FailedBilling monologue.rehearsal "ask" "" (.completion "rate limited") s'.world := by
  have hfails : (settle (execute monologue.rehearsal soliloquy) rateLimited).1 =
    .error (.completion "rate limited") := by decide +kernel
  have hbody : soliloquy.data.body = .completion {} := rfl
  exact ⟨hbody, _, Prod.ext hfails rfl,
    execute_failedBilling monologue.rehearsal hbody (Prod.ext hfails rfl)⟩

/-- The whole response that the model gives next. -/
def Rehearsal.nextWhole? (r : Rehearsal) : Option CompletionResponse :=
  match r.model with
  | (_, .whole response) :: _ => some response
  | _ => none

theorem Rehearsal.complete_of_nextWhole {r : Rehearsal} {response : CompletionResponse}
    (h : r.nextWhole? = some response) (q : CompletionRequest) :
    (complete q r).1 = .answered (.ok (.whole response)) := by
  unfold nextWhole? at h
  split at h
  · next hmodel =>
    cases h
    unfold complete
    simp only [hmodel]
  · cases h

/-- What was heard before a node fails can go unrecorded, although the host has a sink. -/
theorem usage_lost : ¬ ∀ (c : Frame Rehearsal) (n : Node) (b : CompletionBody)
    (s : Session Rehearsal) (s' : Session (Record Rehearsal)) (f : Fault),
    n.data.body = .completion b → c.host.usage.isSome = true →
    settle (execute c.recorded n) s.watched = (.error f, s') →
    ∀ k k' late r, s'.world.asked = k :: k' :: late → c.host.Replied k r → r.usage ≠ none →
    ∃ u, .counted u ∈ s'.world.bills := by
  intro h
  obtain ⟨s', hs'⟩ :
    ∃ s', s' = (settle (execute monologue.rehearsal.recorded soliloquy) rateLimited.watched).2 :=
    ⟨_, rfl⟩
  have hfails : settle (execute monologue.rehearsal.recorded soliloquy) rateLimited.watched =
      (.error (.completion "rate limited"), s') := by
    rw [hs']
    exact Prod.ext (by decide +kernel) rfl
  have hasked : (s'.world.asked.map fun k => (k.deed.request?.isSome, k.before.nextWhole?)) =
      [(true, some metered), (true, none)] := by
    rw [hs']
    decide +kernel
  have hbills : s'.world.bills.isEmpty = true := by
    rw [hs']
    decide +kernel
  obtain ⟨k, rest, hk, hfirst, hrest⟩ := List.map_eq_cons_iff.mp hasked
  obtain ⟨k', late, rfl, -⟩ := List.map_eq_cons_iff.mp hrest
  obtain ⟨hrequest, hreply⟩ := Prod.mk.inj hfirst
  have hreplied : monologue.rehearsal.host.Replied k metered := by
    cases hdeed : k.deed with
    | asked q => exact ⟨_, q, _, rfl, hdeed, Rehearsal.complete_of_nextWhole hreply q, .whole _⟩
    | _ => rw [hdeed] at hrequest; cases hrequest
  obtain ⟨u, hu⟩ := h _ _ {} rateLimited s' _ rfl rfl hfails k k' late _ hk hreplied nofun
  rw [List.isEmpty_iff.mp hbills] at hu
  cases hu

end Workgraph
