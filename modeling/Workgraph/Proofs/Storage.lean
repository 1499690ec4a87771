import Workgraph.Proofs.MemberOrder
import Workgraph.Proofs.Rereading
import Workgraph.Proofs.Transcription

/-!
# Graphs that are stored

A graph that was read from a document is written by a document from which the same graph is read:
`Graph.stable`. The document it was read from may have left out fields, had more of them than are
known, held null for what is absent, been written as arrays; none of this matters to the graph.

* each kind of settings is stable, alone and among other members;
* the settings of a node stand in one object with its title, label and mute flag and with their
  type. No two of these names are the same (`nodup_names`), so each is found again among the others
  (`tagged?_of_holds`, `NodeData.returns`);
* **a graph survives being stored** (`Graph.survives`). `Graph.encode` gives objects as maps, with
  the members in the order of their keys; the members may be written in any order, since a graph is
  read in any (`Graph.respects`).
-/

namespace Workgraph

open Json

variable {n : Nat}

/-! ## 1. Names -/

theorem ScriptMode.returns (n : Nat) (m : ScriptMode) :
    Returns decode (fun m => .string m.name) n m := returns_choice (by cases m <;> decide)

theorem Role.returns (n : Nat) (r : Role) : Returns decode encode n r :=
  returns_choice (by cases r <;> decide)

theorem NodeType.returns (n : Nat) (t : NodeType) : Returns decode encode n t :=
  returns_choice (entry?_table t)

/-! ## 2. Settings that hold texts and flags only -/

theorem TransformBody.stable : StableAmong decode members 2 := by
  refine .of_forall fun n b => ?_
  refine .of_fields rfl (fun s => ?_) ?_
  · simp only [members, List.map_cons, List.map_nil, Field.getD]
    rw [(b.mode.returns n).rereads s]
    rfl
  · simp only [members, List.forall_mem_cons]
    exact ⟨(b.mode.returns _).fits, Document.fits_string _ _, List.forall_mem_nil _⟩

theorem SetVariableBody.stable : StableAmong decode members 2 := by
  refine .of_forall fun n b => ?_
  refine .of_fields rfl (fun _ => rfl) ?_
  simp only [members, List.forall_mem_cons]
  exact ⟨Document.fits_string _ _, Document.fits_string _ _, List.forall_mem_nil _⟩

theorem RandomizerBody.stable : StableAmong decode members 2 := by
  refine .of_forall fun n b => ?_
  have hchoices := returns_strings (n + 1) b.choices
  refine .of_fields rfl (fun s => ?_) ?_
  · simp only [members, List.map_cons, List.map_nil, Field.getD]
    rw [hchoices.rereads s]
    rfl
  · simp only [members, List.forall_mem_cons]
    exact ⟨Document.fits_string _ _, Document.fits_string _ _, hchoices.fits, List.forall_mem_nil _⟩

theorem GlobalStateBody.stable : StableAmong decode members 2 := by
  refine .of_forall fun n b => ?_
  refine .of_fields rfl (fun _ => rfl) ?_
  simp only [members, List.forall_mem_cons]
  exact ⟨Document.fits_bool _ _, Document.fits_string _ _, List.forall_mem_nil _⟩

theorem AttachedDocument.returns (n : Nat) (a : AttachedDocument) :
    Returns decode encode (n + 1) a := by
  refine ReturnsAmong.returns (.of_fields rfl (fun _ => rfl) ?_) ?_
  · simp only [List.forall_mem_cons]
    exact ⟨Document.fits_string n _, Document.fits_string n _, Document.fits_string n _,
      List.forall_mem_nil _⟩
  · change ["id", "title", "text"].Nodup
    decide

/-! ## 3. Settings that hold numbers or free values -/

theorem CompletionBody.stable : StableAmong decode members 2 := by
  refine .of_fields fun s n fs b _ hfs h => ?_
  split at h
  · rename_i model systemPrompt temperature maxTokens stream maxToolRounds
    simp only [Option.bind_eq_bind, Option.bind_eq_some_iff] at h
    obtain ⟨_, -, _, -, _, htemperature, _, hmaxTokens, _, -, _, hmaxToolRounds, hb⟩ := h
    cases hb
    have hnatural := (stable_natural (show Width.natural32 ≤ _ by decide)).optional fun _ => rfl
    have htemperature := (stable_real.optional fun _ => rfl).omittable (Nat.zero_le n)
      (hfs temperature (by simp)) htemperature
    have hmaxTokens := hnatural.omittable (Nat.zero_le n) (hfs maxTokens (by simp)) hmaxTokens
    have hmaxToolRounds := hnatural.omittable (Nat.zero_le n) (hfs maxToolRounds (by simp))
      hmaxToolRounds
    refine ⟨rfl, fun s' => ?_, ?_⟩
    · simp only [members, List.map_cons, List.map_nil, Field.getD, Field.omittable]
      rw [htemperature.rereads s', hmaxTokens.rereads s', hmaxToolRounds.rereads s']
      rfl
    · simp only [members, List.forall_mem_cons]
      exact ⟨Document.fits_string n _, Document.fits_string n _, htemperature.fits, hmaxTokens.fits,
        Document.fits_bool n _, hmaxToolRounds.fits, List.forall_mem_nil _⟩
  · cases h

theorem SwitchBody.stable : StableAmong decode members 2 := by
  refine .of_fields fun s n fs b hk hfs h => ?_
  split at h
  · rename_i cases labels selector
    simp only [Option.bind_eq_bind, Option.bind_eq_some_iff] at h
    obtain ⟨_, hcases, labels, -, _, -, hb⟩ := h
    cases hb
    have hcases := (stable_natural (by decide)).getD (Nat.zero_le n)
      (returns_natural (by decide) (by decide)) (hfs cases (by simp)) hcases
    obtain ⟨m, rfl⟩ := Nat.exists_eq_add_of_le' hk
    have hlabels := returns_strings (m + 1) labels
    refine ⟨rfl, fun s' => ?_, ?_⟩
    · simp only [members, List.map_cons, List.map_nil, Field.getD]
      rw [hcases.rereads s', hlabels.rereads s']
      rfl
    · simp only [members, List.forall_mem_cons]
      exact ⟨hcases.fits, hlabels.fits, Document.fits_string _ _, List.forall_mem_nil _⟩
  · cases h

theorem GetVariableBody.stable : StableAmong decode members 2 := by
  refine .of_fields fun s n fs b _ hfs h => ?_
  split at h
  · rename_i path defaultValue
    simp only [Option.bind_eq_bind, Option.bind_eq_some_iff] at h
    obtain ⟨_, -, _, hdefaultValue, hb⟩ := h
    cases hb
    have hdefaultValue :=
      stable_optional_value.omittable (Nat.zero_le n) (hfs defaultValue (by simp)) hdefaultValue
    refine ⟨rfl, fun s' => ?_, ?_⟩
    · simp only [members, List.map_cons, List.map_nil, Field.getD, Field.omittable]
      rw [hdefaultValue.rereads s']
      rfl
    · simp only [members, List.forall_mem_cons]
      exact ⟨Document.fits_string n _, hdefaultValue.fits, List.forall_mem_nil _⟩
  · cases h

theorem ContextMessageBody.stable : StableAmong decode members 2 := by
  refine .of_fields fun s n fs b _ hfs h => ?_
  split at h
  · rename_i role text priority
    simp only [Option.bind_eq_bind, Option.bind_eq_some_iff] at h
    obtain ⟨role, -, _, -, _, hpriority, hb⟩ := h
    cases hb
    have hpriority := ((stable_integer _ _).optional fun _ => rfl).omittable (Nat.zero_le n)
      (hfs priority (by simp)) hpriority
    refine ⟨rfl, fun s' => ?_, ?_⟩
    · simp only [members, List.map_cons, List.map_nil, Field.getD, Field.omittable]
      rw [(role.returns n).rereads s', hpriority.rereads s']
      rfl
    · simp only [members, List.forall_mem_cons]
      exact ⟨(role.returns n).fits, Document.fits_string n _, hpriority.fits, List.forall_mem_nil _⟩
  · cases h

theorem RetrievalBody.stable : StableAmong decode members 2 := by
  refine .of_fields fun s n fs b _ hfs h => ?_
  split at h
  · rename_i storeId topK maxQueries guidance
    simp only [Option.bind_eq_bind, Option.bind_eq_some_iff] at h
    obtain ⟨_, -, _, htopK, _, hmaxQueries, _, -, hb⟩ := h
    cases hb
    have htopK := (stable_natural (by decide)).getD (Nat.zero_le n)
      (returns_natural (by decide) (by decide)) (hfs topK (by simp)) htopK
    have hmaxQueries := (stable_natural (by decide)).getD (Nat.zero_le n)
      (returns_natural (by decide) (by decide)) (hfs maxQueries (by simp)) hmaxQueries
    refine ⟨rfl, fun s' => ?_, ?_⟩
    · simp only [members, List.map_cons, List.map_nil, Field.getD]
      rw [htopK.rereads s', hmaxQueries.rereads s']
      rfl
    · simp only [members, List.forall_mem_cons]
      exact ⟨Document.fits_string n _, htopK.fits, hmaxQueries.fits, Document.fits_string n _,
        List.forall_mem_nil _⟩
  · cases h

theorem DocumentReaderBody.stable : StableAmong decode members 2 := by
  refine .of_fields fun s n fs b hk hfs h => ?_
  split at h
  · rename_i documents maxChars
    simp only [Option.bind_eq_bind, Option.bind_eq_some_iff] at h
    obtain ⟨documents, -, _, hmaxChars, hb⟩ := h
    cases hb
    have hmaxChars := (stable_natural le_rfl).getD (Nat.zero_le n)
      (returns_natural le_rfl (by decide)) (hfs maxChars (by simp)) hmaxChars
    obtain ⟨m, rfl⟩ := Nat.exists_eq_add_of_le' hk
    have hdocuments := returns_list fun a (_ : a ∈ documents) => a.returns m
    refine ⟨rfl, fun s' => ?_, ?_⟩
    · simp only [members, List.map_cons, List.map_nil, Field.getD]
      rw [hdocuments.rereads s', hmaxChars.rereads s']
      rfl
    · simp only [members, List.forall_mem_cons]
      exact ⟨hdocuments.fits, hmaxChars.fits, List.forall_mem_nil _⟩
  · cases h

/-! ## 4. Bodies -/

namespace NodeBody

/-- The settings of a body: its members without its type. -/
def settings (b : NodeBody) : List (String × Json) := b.members.tail

theorem members_eq (b : NodeBody) : b.members = ("type", b.nodeType.encode) :: b.settings := by
  cases b <;> rfl

/-- A type that has no settings takes any members. -/
theorem stable_plain (c : NodeBody) (hc : c.settings = []) :
    StableAmong (fun _ d => (fields? [] d).map fun _ => c) settings 2 := by
  intro s n d b _ _ hdecode
  obtain ⟨_, _, rfl⟩ := Option.map_eq_some_iff.mp hdecode
  refine ⟨fun _ _ _ => rfl, ?_⟩
  rw [hc]
  exact List.forall_mem_nil _

theorem stable_ifElse : StableAmong (decodeFor .ifElse) settings 2 := by
  refine .of_fields fun s n fs b _ _ h => ?_
  split at h
  · obtain ⟨_, -, hb⟩ := Option.bind_eq_some_iff.mp h
    cases hb
    refine ⟨rfl, fun _ => rfl, ?_⟩
    simp only [settings, members, List.tail_cons, List.forall_mem_cons]
    exact ⟨Document.fits_string n _, List.forall_mem_nil _⟩
  · cases h

/-- **The settings of every type are stable.** -/
theorem decodeFor_stable (type : NodeType) : StableAmong (decodeFor type) settings 2 := by
  cases type with
  | start => exact stable_plain _ rfl
  | finish => exact stable_plain _ rfl
  | completion => exact CompletionBody.stable.map fun _ => rfl
  | ifElse => exact stable_ifElse
  | switch => exact SwitchBody.stable.map fun _ => rfl
  | transform => exact TransformBody.stable.map fun _ => rfl
  | getVariable => exact GetVariableBody.stable.map fun _ => rfl
  | setVariable => exact SetVariableBody.stable.map fun _ => rfl
  | contextMessage => exact ContextMessageBody.stable.map fun _ => rfl
  | randomizer => exact RandomizerBody.stable.map fun _ => rfl
  | retrieval => exact RetrievalBody.stable.map fun _ => rfl
  | documentReader => exact DocumentReaderBody.stable.map fun _ => rfl
  | globalState => exact GlobalStateBody.stable.map fun _ => rfl

/-- The settings of a type make a body of the type. -/
theorem nodeType_of_decodeFor {type : NodeType} {s : Source} {d : Document} {b : NodeBody}
    (h : decodeFor type s d = some b) : b.nodeType = type := by
  cases type with
  | ifElse =>
    obtain ⟨fs, -, h⟩ := Option.bind_eq_some_iff.mp h
    split at h
    · obtain ⟨_, -, hb⟩ := Option.bind_eq_some_iff.mp h
      cases hb
      rfl
    · cases h
  | _ =>
    obtain ⟨_, -, rfl⟩ := Option.map_eq_some_iff.mp h
    rfl

/-- A body is written under the names that its type has for its settings. -/
theorem names_members (b : NodeBody) :
    b.members.map (·.1) = (initial b.nodeType).members.map (·.1) := by cases b <;> rfl

/-- No setting has a name that another setting, the type or the node's own data has. -/
theorem nodup_names (type : NodeType) :
    (NodeData.ownNames ++ (initial type).members.map (·.1)).Nodup := by cases type <;> decide

theorem fits_of_tagged? {key : String} {kinds : List String} {s : Source} {d others : Document}
    {name : String} (hd : d.Fits n) (h : tagged? key kinds s d = some (name, others)) :
    others.Fits n := by
  unfold tagged? at h
  split at h
  · rename_i members
    obtain ⟨m, rfl, hmembers⟩ := Document.fits_object.mp hd
    split at h
    · obtain ⟨_, -, h⟩ := Option.bind_eq_some_iff.mp h
      dsimp only at h
      split_ifs at h
      cases h
      exact Document.fits_object.mpr
        ⟨m, rfl, fun e he => hmembers e (List.mem_of_mem_filter he)⟩
    · cases h
  · rename_i d items
    obtain ⟨m, rfl, hitems⟩ := Document.fits_array.mp hd
    obtain ⟨_, -, h⟩ := Option.bind_eq_some_iff.mp h
    split_ifs at h
    cases h
    exact Document.fits_array.mpr ⟨m, rfl, fun d hd => hitems d (List.mem_cons_of_mem _ hd)⟩
  · cases h

/-- The type is found among members that hold a body, and its settings beside it. -/
theorem tagged?_of_holds {b : NodeBody} {ms : List (String × Document)} (h : Holds ms b.members)
    (hreadable : ∀ m ∈ ms, m.2.isReadable = true) (s : Source) :
    tagged? "type" (NodeType.all.map (·.name)) s (.object ms) =
      some (b.nodeType.name, .object (ms.filter fun m => m.1 ≠ "type")) := by
  rw [members_eq] at h
  have hname : b.nodeType.name ∈ NodeType.all.map (·.name) :=
    List.mem_map_of_mem (NodeType.mem_all _)
  have hall : (ms.filter fun m => m.1 ≠ "type").all (fun m => m.2.isReadable) = true :=
    List.all_eq_true.mpr fun m hm => hreadable m (List.mem_of_mem_filter hm)
  have htype : membersUnder "type" ms = [.string b.nodeType.name] :=
    h ("type", some b.nodeType.encode) (List.mem_cons_self ..)
  unfold tagged?
  dsimp only
  rw [htype]
  dsimp only
  rw [kind?, if_pos hname, Option.bind_eq_bind, Option.bind_some, if_pos hall]

/-- **A body that was decoded is decoded again** from any readable members that hold it. -/
theorem decode_again {s : Source} {d : Document} {b : NodeBody} (hn : 2 ≤ n) (hd : d.Fits (n + 1))
    (h : decode s d = some b) : (∀ e ∈ b.members, (Document.ofValue e.2).Fits n) ∧
      ∀ (s' : Source) {ms : List (String × Document)}, Holds ms b.members →
        (∀ m ∈ ms, m.2.isReadable = true) → decode s' (.object ms) = some b := by
  obtain ⟨⟨name, others⟩, htagged, h⟩ := Option.bind_eq_some_iff.mp h
  obtain ⟨type, -, h⟩ := Option.bind_eq_some_iff.mp h
  obtain rfl := nodeType_of_decodeFor h
  have hsettings := decodeFor_stable _ .held n others b hn (fits_of_tagged? hd htagged) h
  refine ⟨?_, fun s' ms hms hreadable => ?_⟩
  · rw [members_eq]
    exact List.forall_mem_cons.mpr ⟨Document.fits_string n _, hsettings.fits⟩
  have hkeys : ∀ k ∈ b.settings.map (·.1), ∀ d : Document,
      decide ((k, d).1 ≠ "type") = true := by
    intro k hk d
    have hnodup : (b.members.map (·.1)).Nodup :=
      b.names_members ▸ (List.nodup_append.mp (nodup_names b.nodeType)).2.1
    rw [members_eq, List.map_cons, List.nodup_cons] at hnodup
    exact decide_eq_true fun heq => hnodup.1 (heq ▸ hk)
  have hbeside : Holds (ms.filter fun m => m.1 ≠ "type") b.settings := by
    rw [members_eq] at hms
    exact Holds.filter (fun e he => hms e (List.mem_cons_of_mem _ he)) hkeys
  unfold decode
  rw [tagged?_of_holds hms hreadable, Option.bind_eq_bind, Option.bind_some]
  dsimp only
  rw [NodeType.entry?_table, Option.bind_eq_bind, Option.bind_some]
  exact hsettings.rereads .held hbeside

end NodeBody

/-! ## 5. Nodes, edges, graphs -/

namespace NodeData

/-- The members that write a node's data. -/
def members (d : NodeData) : List (String × Json) :=
  [("title", .string d.title), ("label", .string d.label), ("muted", .bool d.muted)]
    ++ d.body.members

theorem nodup_members (d : NodeData) : (d.members.map (·.1)).Nodup := by
  rw [members, List.map_append, NodeBody.names_members]
  exact NodeBody.nodup_names d.body.nodeType

/-- The members of a body are none of a node's own. -/
theorem notMem_ownNames {b : NodeBody} {k : String} (hk : k ∈ b.members.map (·.1)) :
    k ∉ ownNames := by
  rw [NodeBody.names_members] at hk
  exact fun hown => (List.nodup_append.mp (NodeBody.nodup_names b.nodeType)).2.2 k hown k hk rfl

/-- A node's data is decoded again when its body is. -/
theorem returns {d : NodeData} (hfits : ∀ e ∈ d.body.members, (Document.ofValue e.2).Fits n)
    (hbody : ∀ {ms : List (String × Document)}, Holds ms d.body.members →
      (∀ m ∈ ms, m.2.isReadable = true) → NodeBody.decode .held (.object ms) = some d.body) :
    Returns decode encode (n + 1) d := by
  refine ⟨fun s => ?_, Document.fits_ofMembers ?_⟩
  · obtain ⟨hown, hmembers⟩ := Holds.append_iff.mp (holds_ofList d.nodup_members)
    have hreadable : ∀ m ∈ (Document.ofEntries (Keyed.ofList d.members)).filter
        fun m => m.1 ∉ ownNames, m.2.isReadable = true :=
      fun m hm => isReadable_of_mem_ofEntries (List.mem_of_mem_filter hm)
    have hothers : NodeBody.decode .held (.object
        ((Document.ofEntries (Keyed.ofList d.members)).filter fun m => m.1 ∉ ownNames)) =
        some d.body :=
      hbody (hmembers.filter fun k hk _ => decide_eq_true (notMem_ownNames hk)) hreadable
    have hfields : fields? ownNames (.object (Document.ofEntries (Keyed.ofList d.members))) =
        some [.given (.string d.title), .given (.string d.label), .given (.bool d.muted)] :=
      fields?_of_says hown
    change decode s (.object (Document.ofEntries (Keyed.ofList d.members))) = some d
    unfold decode
    dsimp only
    rw [hfields, Option.bind_eq_bind, Option.bind_some]
    dsimp only
    rw [if_pos (List.all_eq_true.mpr hreadable), hothers]
    rfl
  · simp only [List.cons_append, List.nil_append, List.forall_mem_cons]
    exact ⟨Document.fits_string n _, Document.fits_string n _, Document.fits_bool n _, hfits⟩

theorem stable : Stable decode encode 3 := by
  intro s n d data hn hd h
  unfold decode at h
  split at h
  · rename_i members
    obtain ⟨fs, -, h⟩ := Option.bind_eq_some_iff.mp h
    split at h
    · dsimp only at h
      split_ifs at h
      simp only [Option.bind_eq_bind, Option.bind_eq_some_iff] at h
      obtain ⟨_, -, _, -, _, -, body, hbody, hdata⟩ := h
      cases hdata
      obtain ⟨m, rfl, hmembers⟩ := Document.fits_object.mp hd
      have hothers : (Document.object (members.filter fun m => m.1 ∉ ownNames)).Fits (m + 1) :=
        Document.fits_object.mpr ⟨m, rfl, fun e he => hmembers e (List.mem_of_mem_filter he)⟩
      obtain ⟨hfits, hagain⟩ := NodeBody.decode_again (Nat.le_of_succ_le_succ hn) hothers hbody
      exact returns hfits (hagain .held)
    · cases h
  · cases h

end NodeData

namespace Edge

/-- The members that write an edge. -/
def members (e : Edge) : List (String × Json) :=
  [("id", .string e.id), ("source", .string e.source), ("target", .string e.target)]
    ++ Json.present "sourcePort" .string e.sourcePort
    ++ Json.present "targetPort" .string e.targetPort

/-- A port that is not given is not written. -/
theorem says_members (e : Edge) : Says (Document.ofEntries (Keyed.ofList e.members))
    [("id", some (.string e.id)), ("source", some (.string e.source)),
      ("target", some (.string e.target)), ("sourcePort", e.sourcePort.map .string),
      ("targetPort", e.targetPort.map .string)] := by
  obtain ⟨id, source, target, sourcePort, targetPort⟩ := e
  have hnodup : ((members ⟨id, source, target, sourcePort, targetPort⟩).map (·.1)).Nodup := by
    cases sourcePort <;> cases targetPort <;> simp [members, present]
  intro x hx
  rw [membersUnder_ofEntries (Keyed.ascending_ofList _), Keyed.get?_ofList hnodup]
  simp only [List.mem_cons, List.not_mem_nil, or_false] at hx
  cases sourcePort <;> cases targetPort <;> rcases hx with rfl | rfl | rfl | rfl | rfl <;>
    simp [members, present, Keyed.get?]

theorem fits_port (n : Nat) (key : String) (port : Option String) :
    ∀ e ∈ present key .string port, (Document.ofValue e.2).Fits n := by
  cases port with
  | none => exact List.forall_mem_nil _
  | some p => exact List.forall_mem_singleton.mpr (Document.fits_string n p)

theorem returns (n : Nat) (e : Edge) : Returns decode encode (n + 1) e := by
  have hfields : fields? ["id", "source", "target", "sourcePort", "targetPort"]
      (.object (Document.ofEntries (Keyed.ofList e.members))) =
      some [.given (.string e.id), .given (.string e.source), .given (.string e.target),
        .said (e.sourcePort.map .string), .said (e.targetPort.map .string)] :=
    fields?_of_says e.says_members
  refine ⟨fun s => ?_, Document.fits_ofMembers fun m hm => ?_⟩
  · change decode s (.object (Document.ofEntries (Keyed.ofList e.members))) = some e
    unfold decode
    rw [hfields]
    obtain ⟨id, source, target, sourcePort, targetPort⟩ := e
    cases sourcePort <;> cases targetPort <;> rfl
  · have hfits : ∀ e' ∈ e.members, (Document.ofValue e'.2).Fits n := by
      unfold members
      simp only [List.forall_mem_append, List.forall_mem_cons]
      exact ⟨⟨⟨Document.fits_string n _, Document.fits_string n _, Document.fits_string n _,
        List.forall_mem_nil _⟩, fits_port n _ _⟩, fits_port n _ _⟩
    exact hfits m hm

end Edge

theorem Node.stable : Stable decode encode 4 := by
  refine StableAmong.stable (.of_fields fun s n fs b hk hfs h => ?_) fun b => ?_
  · split at h
    · rename_i id type data
      simp only [Option.bind_eq_bind, Option.bind_eq_some_iff] at h
      obtain ⟨_, -, type, -, _, hdata, hb⟩ := h
      cases hb
      have hdata := NodeData.stable.required hk (hfs data (by simp)) hdata
      refine ⟨rfl, fun s' => ?_, ?_⟩
      · simp only [List.map_cons, List.map_nil, Field.required]
        rw [(type.returns n).rereads s', hdata.rereads s']
        rfl
      · simp only [List.forall_mem_cons]
        exact ⟨Document.fits_string n _, (type.returns n).fits, hdata.fits, List.forall_mem_nil _⟩
    · cases h
  · change ["id", "type", "data"].Nodup
    decide

/-- **A graph that was read is read again from what writes it.** -/
theorem Graph.stable : Stable decode encode 6 := by
  refine StableAmong.stable (.of_fields fun s n fs b hk hfs h => ?_) fun b => ?_
  · split at h
    · rename_i nodes edges
      simp only [Option.bind_eq_bind, Option.bind_eq_some_iff] at h
      obtain ⟨_, hnodes, edges, -, hb⟩ := h
      cases hb
      have hnodes := Node.stable.list.required hk (hfs nodes (by simp)) hnodes
      obtain ⟨m, rfl⟩ := Nat.exists_eq_add_of_le' hk
      have hedges := returns_list fun e (_ : e ∈ edges) => e.returns (m + 3)
      refine ⟨rfl, fun s' => ?_, ?_⟩
      · simp only [List.map_cons, List.map_nil, Field.required]
        rw [hnodes.rereads s', hedges.rereads s']
        rfl
      · simp only [List.forall_mem_cons]
        exact ⟨hnodes.fits, hedges.fits, List.forall_mem_nil _⟩
    · cases h
  · change ["nodes", "edges"].Nodup
    decide

/-! ## 6. Texts -/

/-- **A graph that a text says survives being stored.** What writes it says the same graph, with the
members of objects in any order, and so does its text, as far as the floating-point numbers in it
are legible. -/
theorem Graph.survives {text : String} {g : Graph} (h : ofText? text = some g) :
    (∀ d : Document, d.Rearranges (.ofValue g.encode) → decode .written d = some g) ∧
      ((∀ x, .real x ∈ (Document.ofValue g.encode).numbers → (Number.real x).Legible) →
        ofText? g.encode.compact = some g) := by
  obtain ⟨d, hd, hg⟩ := Option.bind_eq_some_iff.mp h
  have hreturns := Graph.stable .written maxDepth d g (by decide) (Document.fits_of_ofText? hd) hg
  refine ⟨fun d' hd' => ?_, fun hlegible => ?_⟩
  · rw [Graph.respects .written hd']
    exact hreturns.rereads .written
  unfold ofText?
  rw [Document.ofText?_compact hreturns.fits hlegible]
  exact hreturns.rereads .written

/-- A document with all that may be left out, added or written otherwise. -/
def sketch : Json :=
  .object [("version", .ofInt 3),
    ("edges", .array [
      .array [.string "e1", .string "s", .string "c"],
      .object [("targetPort", .string "value"), ("id", .string "e2"), ("source", .string "v"),
        ("target", .string "c"), ("sourcePort", .null)]]),
    ("nodes", .array [
      .array [.string "s", .object [("start", .null)],
        .object [("type", .string "start"), ("title", .string "Start"),
          ("note", .array [.ofInt 1, .object []])]],
      .object [("id", .string "v"), ("type", .string "get_variable"), ("data", .object [
        ("title", .string "V"), ("muted", .bool true), ("type", .string "get_variable"),
        ("path", .string "user.name"), ("defaultValue", .object [
          ("b", .array [.ofInt (-1), .string "\x01 \"q\"\n"]), ("a", .null)])])],
      .object [("id", .string "c"), ("type", .string "completion"), ("data", .object [
        ("type", .ofInt 2), ("maxTokens", .ofInt 64), ("temperature", .null),
        ("title", .string "C")])]])]

/-- The graph that the document says. -/
def sketched : Graph where
  nodes := [
    { id := "s", type := .start, data := { title := "Start", body := .start } },
    { id := "v", type := .getVariable, data := {
        title := "V", muted := true, body := .getVariable {
          path := "user.name", defaultValue := some (.object [("a", .null),
            ("b", .array [.ofInt (-1), .string "\x01 \"q\"\n"])]) } } },
    { id := "c", type := .completion, data := {
        title := "C", body := .completion { maxTokens := some 64 } } }]
  edges := [
    { id := "e1", source := "s", target := "c" },
    { id := "e2", source := "v", target := "c", targetPort := some "value" }]

theorem ofText?_sketch : Graph.ofText? sketch.compact = some sketched := by
  have hnumbers : (Document.ofValue sketch).numbers =
      [.integer 3, .integer 1, .integer (-1), .integer 2, .integer 64] := by decide +kernel
  have hfits : (Document.ofValue sketch).Fits maxDepth := ⟨by decide +kernel, by
    rw [hnumbers]
    decide⟩
  unfold Graph.ofText?
  rw [Document.ofText?_compact hfits fun x hx => by
    rw [hnumbers] at hx
    simp at hx]
  decide +kernel

theorem sketched_survives : Graph.ofText? sketch.compact = some sketched ∧
    Graph.decode .written (.object [("nodes", .ofValue (.ofList Node.encode sketched.nodes)),
      ("edges", .ofValue (.ofList Edge.encode sketched.edges))]) = some sketched ∧
    Graph.ofText? sketched.encode.compact = some sketched := by
  obtain ⟨hdecode, htext⟩ := Graph.survives ofText?_sketch
  refine ⟨ofText?_sketch, hdecode _ ?_, htext fun x hx => ?_⟩
  · refine Document.rearranges_ofMembers ?_ ?_
    · change ["nodes", "edges"].Nodup
      decide
    · exact .cons ⟨rfl, .same _⟩ (.cons ⟨rfl, .same _⟩ .nil)
  · have hnumbers : (Document.ofValue sketched.encode).numbers =
        [.integer (-1), .integer 64] := by decide +kernel
    rw [hnumbers] at hx
    simp at hx

end Workgraph
