import Mathlib.Data.List.Perm.Basic
import Workgraph.Proofs.Documents
import Workgraph.Graph.Codec

/-!
# The order of members

An object is the same whatever order its members stand in, as long as no key occurs twice: of two
members with one key a free value takes the later.

* `Document.Rearranges` relates documents that differ in the order of members, at any depth;
* such documents have the same value (`Rearranges.value?_eq`) and say the same about every field
  (`alike_of_fields?`), and a decoder `Respects` the order when it makes the same of both;
* **graphs are read in any order** (`Graph.respects`): each kind of settings respects the order, so
  does the search for the type among the other members, and so do nodes and edges.
-/

namespace Workgraph

namespace Json

namespace Document

/-! ## 1. Documents with their members in another order -/

/-- The first document is the second with the members of objects in another order. Objects that
differ name each key once. -/
inductive Rearranges : Document → Document → Prop
  | same (d : Document) : Rearranges d d
  | array {ds es : List Document} (items : List.Forall₂ Rearranges ds es) :
    Rearranges (.array ds) (.array es)
  | object {ms ms' es : List (String × Document)} (hnodup : (es.map (·.1)).Nodup)
    (order : ms.Perm ms') (keys : ms'.map (·.1) = es.map (·.1))
    (values : List.Forall₂ (fun m e => Rearranges m.2 e.2) ms' es) :
    Rearranges (.object ms) (.object es)

variable {d e : Document} {ds es : List Document} {ms ms' : List (String × Document)}

theorem Rearranges.all (ds : List Document) : List.Forall₂ Rearranges ds ds :=
  List.forall₂_same.mpr fun d _ => .same d

/-- The entries of members are their values, each under its key. -/
theorem entries?_eq_some {es : List (String × Json)} :
    entries? ms = some es ↔ List.Forall₂ (fun m e => m.1 = e.1 ∧ m.2.value? = some e.2) ms es := by
  induction ms generalizing es with
  | nil =>
    rw [List.forall₂_nil_left_iff, entries?, Option.some.injEq, eq_comm]
  | cons m ms ih =>
    obtain ⟨k, d⟩ := m
    rw [entries?, List.forall₂_cons_left_iff]
    constructor
    · intro h
      split at h
      · rename_i v vs hv hvs
        cases h
        exact ⟨(k, v), vs, ⟨rfl, hv⟩, ih.mp hvs, rfl⟩
      · cases h
    · rintro ⟨⟨_, v⟩, vs, ⟨rfl, hv⟩, hvs, rfl⟩
      rw [hv, ih.mpr hvs]

/-- The order of members with different keys does not matter to the object they make. -/
theorem ofMembers_entries?_perm (h : ms.Perm ms') (hnodup : (ms'.map (·.1)).Nodup) :
    (entries? ms).map ofMembers = (entries? ms').map ofMembers := by
  cases hes' : entries? ms' with
  | some es' =>
    have hvalues := entries?_eq_some.mp hes'
    obtain ⟨es, hes, hperm⟩ := List.perm_comp_forall₂ h hvalues
    have hkeys : (es'.map (·.1)).Nodup := by
      have hsame : ms'.map (·.1) = es'.map (·.1) :=
        List.forall₂_eq_eq_eq ▸ (List.forall₂_map_left_iff.mpr
          (List.forall₂_map_right_iff.mpr (hvalues.imp fun _ _ hm => hm.1)))
      exact hsame ▸ hnodup
    rw [entries?_eq_some.mpr hes, Option.map_some, Option.map_some, ofMembers, ofMembers,
      Keyed.ofList_perm hperm hkeys]
  | none =>
    cases hes : entries? ms with
    | none => rfl
    | some es =>
      obtain ⟨es', hvalues, -⟩ := List.perm_comp_forall₂ h.symm (entries?_eq_some.mp hes)
      cases (entries?_eq_some.mpr hvalues).symm.trans hes'

mutual

-- The induction is on the second document: `Rearranges` refers to itself inside of `Forall₂`.
/-- **A document has the same value in any order.** -/
theorem Rearranges.value?_eq : ∀ {d : Document} (e : Document), d.Rearranges e →
    d.value? = e.value?
  | _, .array items, h => by
    cases h with
    | same => rfl
    | array hitems => rw [value?, value?, values?_eq items hitems]
  | _, .object members, h => by
    cases h with
    | same => rfl
    | object hnodup order keys values =>
      rw [value?, value?, ofMembers_entries?_perm order (keys ▸ hnodup),
        entries?_eq members keys values]
  | _, .null, h => by cases h; rfl
  | _, .bool _, h => by cases h; rfl
  | _, .number _, h => by cases h; rfl
  | _, .string _, h => by cases h; rfl
  | _, .unreadable, h => by cases h; rfl

theorem Rearranges.values?_eq : ∀ {ds : List Document} (es : List Document),
    List.Forall₂ Rearranges ds es → values? ds = values? es
  | _, [], h => by cases h; rfl
  | _, e :: es, h => by
    obtain ⟨_, _, hd, hds, rfl⟩ := List.forall₂_cons_right_iff.mp h
    rw [values?, values?, value?_eq e hd, values?_eq es hds]

theorem Rearranges.entries?_eq : ∀ {ms : List (String × Document)} (es : List (String × Document)),
    ms.map (·.1) = es.map (·.1) → List.Forall₂ (fun m e => m.2.Rearranges e.2) ms es →
    entries? ms = entries? es
  | _, [], _, h => by cases h; rfl
  | _, (k, e) :: es, hkeys, h => by
    obtain ⟨⟨_, _⟩, _, hd, hds, rfl⟩ := List.forall₂_cons_right_iff.mp h
    obtain ⟨hkey, hrest⟩ := List.cons.inj hkeys
    dsimp only at hkey
    subst hkey
    rw [entries?, entries?, value?_eq e hd, entries?_eq es hrest hds]

end

theorem Rearranges.isReadable_eq (h : d.Rearranges e) : d.isReadable = e.isReadable :=
  congrArg Option.isSome (h.value?_eq e)

/-- Two members under one key, the documents of which differ in the order of members only. -/
def SameMember (m e : String × Document) : Prop := m.1 = e.1 ∧ m.2.Rearranges e.2

theorem forall₂_sameMember {ms es : List (String × Document)} :
    List.Forall₂ SameMember ms es ↔
      ms.map (·.1) = es.map (·.1) ∧ List.Forall₂ (fun m e => m.2.Rearranges e.2) ms es := by
  constructor
  · intro h
    induction h with
    | nil => exact ⟨rfl, .nil⟩
    | cons hm _ ih => exact ⟨List.cons_eq_cons.mpr ⟨hm.1, ih.1⟩, .cons hm.2 ih.2⟩
  · rintro ⟨hkeys, h⟩
    induction h with
    | nil => exact .nil
    | cons hm _ ih =>
      obtain ⟨hkey, hkeys⟩ := List.cons.inj hkeys
      exact .cons ⟨hkey, hm⟩ (ih hkeys)

/-- Members may stand in the order in which an object was made of them. -/
theorem rearranges_ofMembers {ms : List (String × Document)} {es : List (String × Json)}
    (hnodup : (es.map (·.1)).Nodup)
    (h : List.Forall₂ (fun m e => m.1 = e.1 ∧ m.2.Rearranges (ofValue e.2)) ms es) :
    Rearranges (.object ms) (ofValue (.ofMembers es)) := by
  obtain ⟨ms', order, hmembers⟩ : Relation.Comp List.Perm
      (List.Forall₂ fun m e => m.1 = e.1 ∧ m.2.Rearranges (ofValue e.2)) ms (Keyed.ofList es) :=
    List.forall₂_comp_perm_eq_perm_comp_forall₂ ▸ ⟨es, h, (Keyed.perm_ofList hnodup).symm⟩
  have hsame : List.Forall₂ SameMember ms' (ofEntries (Keyed.ofList es)) := by
    rw [ofEntries_eq_map]
    exact List.forall₂_map_right_iff.mpr hmembers
  obtain ⟨keys, values⟩ := forall₂_sameMember.mp hsame
  refine .object ?_ order keys values
  rw [ofEntries_eq_map, List.map_map]
  exact (Keyed.ascending_ofList es).nodup

/-- What is left out by key alone is left out in any order. -/
theorem Rearranges.filter {ms es : List (String × Document)}
    (h : Rearranges (.object ms) (.object es)) (p : String → Bool) :
    Rearranges (.object (ms.filter fun m => p m.1)) (.object (es.filter fun m => p m.1)) := by
  cases h with
  | same => exact .same _
  | @object _ ms' _ hnodup order keys values =>
    have hmembers : List.Forall₂ SameMember (ms'.filter fun m => p m.1)
        (es.filter fun m => p m.1) :=
      List.rel_filter (fun m e hm => by dsimp only; rw [hm.1])
        (forall₂_sameMember.mpr ⟨keys, values⟩)
    obtain ⟨hkeys, hvalues⟩ := forall₂_sameMember.mp hmembers
    exact .object (hnodup.sublist (List.filter_sublist.map _)) (order.filter _) hkeys hvalues

theorem all_isReadable {ds es : List Document} (h : List.Forall₂ Rearranges ds es) :
    ds.all isReadable = es.all isReadable := by
  induction h with
  | nil => rfl
  | cons hd _ ih => rw [List.all_cons, List.all_cons, hd.isReadable_eq, ih]

theorem Rearranges.all_isReadable {ms es : List (String × Document)}
    (h : Rearranges (.object ms) (.object es)) :
    ms.all (fun m => m.2.isReadable) = es.all fun m => m.2.isReadable := by
  cases h with
  | same => rfl
  | object hnodup order keys values =>
    rw [order.all_eq]
    clear hnodup order keys
    induction values with
    | nil => rfl
    | cons hm _ ih => rw [List.all_cons, List.all_cons, hm.isReadable_eq, ih]

end Document

open Document (Rearranges SameMember)

theorem membersUnder_perm {ms ms' : List (String × Document)} (h : ms.Perm ms')
    (hnodup : (ms'.map (·.1)).Nodup) (key : String) :
    membersUnder key ms = membersUnder key ms' := by
  have hperm : (membersUnder key ms).Perm (membersUnder key ms') := (h.filter _).map _
  have hone : membersUnder key ms' = (Keyed.get? ms' key).toList := Keyed.filter_key hnodup key
  rw [hone] at hperm ⊢
  cases hget : Keyed.get? ms' key with
  | none =>
    rw [hget] at hperm
    exact hperm.eq_nil
  | some d =>
    rw [hget] at hperm
    exact List.perm_singleton.mp hperm

/-- Under each key stand the same documents. -/
theorem membersUnder_rearranges {ms es : List (String × Document)}
    (h : (Document.object ms).Rearranges (.object es)) (key : String) :
    List.Forall₂ Rearranges (membersUnder key ms) (membersUnder key es) := by
  cases h with
  | same => exact Rearranges.all _
  | @object _ ms' _ hnodup order keys values =>
    rw [membersUnder_perm order (keys ▸ hnodup)]
    have hmembers : List.Forall₂ SameMember (ms'.filter fun m => m.1 = key)
        (es.filter fun m => m.1 = key) :=
      List.rel_filter (fun m e hm => by dsimp only; rw [hm.1])
        (Document.forall₂_sameMember.mpr ⟨keys, values⟩)
    exact List.forall₂_map_left_iff.mpr
      (List.forall₂_map_right_iff.mpr (hmembers.imp fun _ _ hm => hm.2))

/-! ## 2. Single values -/

/-- Whether a decoder makes the same of documents that differ in the order of members only. -/
def Respects (decode : Decoder α) : Prop :=
  ∀ (s : Source) {d e : Document}, d.Rearranges e → decode s d = decode s e

variable {α : Type} {decode : Decoder α} {d e : Document} {s : Source}

theorem respects_string : Respects Decoder.string := fun _ _ _ h => by cases h <;> rfl

theorem respects_bool : Respects Decoder.bool := fun _ _ _ h => by cases h <;> rfl

theorem respects_natural (max : Nat) : Respects (Decoder.natural max) :=
  fun _ _ _ h => by cases h <;> rfl

theorem respects_integer (min max : Int) : Respects (Decoder.integer min max) :=
  fun _ _ _ h => by cases h <;> rfl

theorem respects_real : Respects Decoder.real := fun _ _ _ h => by cases h <;> rfl

theorem respects_value : Respects Decoder.value := fun _ _ e h => h.value?_eq e

theorem Respects.optional (h : Respects decode) : Respects (.optional decode) := fun s d e hd => by
  cases hd with
  | same => rfl
  | array items => exact congrArg (Option.map some) (h s (.array items))
  | object hnodup order keys values =>
    exact congrArg (Option.map some) (h s (.object hnodup order keys values))

theorem Respects.list (h : Respects decode) : Respects (.list decode) := fun s d e hd => by
  cases hd with
  | same => rfl
  | @array ds es items =>
    change ds.mapM (decode s) = es.mapM (decode s)
    induction items with
    | nil => rfl
    | cons hd _ ih => rw [List.mapM_cons, List.mapM_cons, h s hd, ih]
  | object => rfl

theorem isVoid_eq (h : d.Rearranges e) : Decoder.isVoid s d = Decoder.isVoid s e := by
  cases h with
  | same => rfl
  | array => cases s <;> rfl
  | @object ms ms' es hnodup order keys values =>
    have hlength := order.length_eq.trans values.length_eq
    match ms, es, hlength with
    | [], [], _ => rfl
    | _ :: _, _ :: _, _ => cases s <;> rfl

theorem respects_choice (table : List (String × α)) : Respects (Decoder.choice table) := by
  intro s d e h
  cases h with
  | same => rfl
  | array => rfl
  | @object ms ms' es hnodup order keys values =>
    have hlength := order.length_eq.trans values.length_eq
    match ms, es, hlength with
    | [], [], _ => rfl
    | [(k, d)], [(k', e)], _ =>
      rw [← List.singleton_perm.mp order] at keys values
      obtain ⟨rfl, -⟩ := List.cons.inj keys
      unfold Decoder.choice
      dsimp only
      rw [isVoid_eq (List.forall₂_cons.mp values).1]
    | _ :: _ :: _, _ :: _ :: _, _ => rfl

/-! ## 3. Fields -/

/-- What two documents say about a field when they differ in the order of members only. -/
inductive Field.Alike : Field → Field → Prop
  | missing : Alike .missing .missing
  | beyond : Alike .beyond .beyond
  | given {d e : Document} (h : d.Rearranges e) : Alike (.given d) (.given e)

namespace Field.Alike

variable {f f' : Field}

protected theorem refl (f : Field) : f.Alike f := by
  cases f with
  | missing => exact .missing
  | beyond => exact .beyond
  | given d => exact .given (.same d)

protected theorem all (fs : List Field) : List.Forall₂ Field.Alike fs fs :=
  List.forall₂_same.mpr fun f _ => .refl f

theorem required (hf : f.Alike f') (h : Respects decode) :
    f.required decode s = f'.required decode s := by
  cases hf with
  | given hd => exact h s hd
  | _ => rfl

theorem getD (hf : f.Alike f') (h : Respects decode) (fallback : α) :
    f.getD decode fallback s = f'.getD decode fallback s := by
  cases hf with
  | given hd => exact h s hd
  | _ => rfl

theorem omittable (hf : f.Alike f') (h : Respects decode) :
    f.omittable decode s = f'.omittable decode s := by
  cases hf with
  | given hd => exact h.optional s hd
  | _ => rfl

end Field.Alike

theorem rel_mapM {β γ : Type} {r : β → β → Prop} {f g : γ → Option β} (as : List γ)
    (h : ∀ a, Option.Rel r (f a) (g a)) :
    Option.Rel (List.Forall₂ r) (as.mapM f) (as.mapM g) := by
  induction as with
  | nil => exact .some .nil
  | cons a as ih =>
    rw [List.mapM_cons, List.mapM_cons]
    have ha := h a
    generalize f a = x at ha ⊢
    generalize g a = y at ha ⊢
    cases ha with
    | none => exact .none
    | some hb =>
      generalize as.mapM f = xs at ih ⊢
      generalize as.mapM g = ys at ih ⊢
      cases ih with
      | none => exact .none
      | some hbs => exact .some (.cons hb hbs)

theorem length_of_mapM {β γ : Type} {f : γ → Option β} {as : List γ} {bs : List β}
    (h : as.mapM f = some bs) : bs.length = as.length := by
  induction as generalizing bs with
  | nil =>
    cases h
    rfl
  | cons a as ih =>
    rw [List.mapM_cons] at h
    obtain ⟨b, -, h⟩ := Option.bind_eq_some_iff.mp h
    obtain ⟨bs, hbs, h⟩ := Option.bind_eq_some_iff.mp h
    cases h
    rw [List.length_cons, List.length_cons, ih hbs]

/-- A document says something about every field, or nothing at all. -/
theorem length_of_fields? {names : List String} {fs : List Field} (h : fields? names d = some fs) :
    fs.length = names.length := by
  unfold fields? at h
  split at h
  · exact length_of_mapM h
  · rename_i items
    split_ifs at h with hlength
    cases h
    rw [List.length_append, List.length_map, List.length_replicate, Nat.add_sub_of_le hlength]
  · cases h

theorem alike_of_fields? (names : List String) (h : d.Rearranges e) :
    Option.Rel (List.Forall₂ Field.Alike) (fields? names d) (fields? names e) := by
  cases h with
  | same =>
    cases fields? names d with
    | none => exact .none
    | some fs => exact .some (Field.Alike.all fs)
  | @array ds es items =>
    unfold fields?
    dsimp only
    rw [items.length_eq]
    split_ifs
    · refine .some (List.rel_append ?_ (Field.Alike.all _))
      exact List.forall₂_map_left_iff.mpr (List.forall₂_map_right_iff.mpr
        (items.imp fun _ _ hd => .given hd))
    · exact .none
  | @object ms ms' es hnodup order keys values =>
    refine rel_mapM names fun name => ?_
    have hunder := membersUnder_rearranges (.object hnodup order keys values) name
    generalize membersUnder name ms = ds at hunder ⊢
    generalize membersUnder name es = es at hunder ⊢
    cases hunder with
    | nil => exact .some .missing
    | cons hd hds =>
      cases hds with
      | nil => exact .some (.given hd)
      | cons _ _ => exact .none

/-- **Documents that differ in the order of members say the same about all fields.** -/
theorem fields?_rearranges (names : List String) (h : d.Rearranges e) :
    Option.Rel (fun fs fs' => List.Forall₂ Field.Alike fs fs' ∧ fs.length = names.length)
      (fields? names d) (fields? names e) := by
  have halike := alike_of_fields? names h
  generalize hfs : fields? names d = x at halike ⊢
  generalize fields? names e = y at halike ⊢
  cases halike with
  | none => exact .none
  | some halike => exact .some ⟨halike, length_of_fields? hfs⟩

theorem Respects.of_fields {names : List String} {build : Source → List Field → Option α}
    (h : ∀ (s : Source) {fs fs' : List Field}, List.Forall₂ Field.Alike fs fs' →
      fs.length = names.length → build s fs = build s fs') :
    Respects fun s d => (fields? names d).bind (build s) := by
  intro s d e hd
  dsimp only
  have hfields := fields?_rearranges names hd
  generalize fields? names d = x at hfields ⊢
  generalize fields? names e = y at hfields ⊢
  cases hfields with
  | none => rfl
  | some hfs => exact h s hfs.1 hfs.2

/-! ## 4. Kinds -/

theorem kind?_eq (kinds : List String) (h : d.Rearranges e) :
    kind? kinds s d = kind? kinds s e := by
  cases h with
  | same => rfl
  | _ => cases s <;> rfl

/-- Two records are of one kind, and what is beside the kind differs in the order of members. -/
def SameKind (a b : String × Document) : Prop := a.1 = b.1 ∧ a.2.Rearranges b.2

theorem rel_beside {p : Prop} [Decidable p] (name? : Option String) (h : d.Rearranges e) :
    Option.Rel SameKind (name?.bind fun name => if p then some (name, d) else none)
      (name?.bind fun name => if p then some (name, e) else none) := by
  cases name? with
  | none => exact .none
  | some name =>
    rw [Option.bind_some, Option.bind_some]
    split_ifs
    · exact .some ⟨rfl, h⟩
    · exact .none

/-- The kind is found in any order, and what is beside it is there in some order. -/
theorem tagged?_rearranges (key : String) (kinds : List String) (h : d.Rearranges e) :
    Option.Rel SameKind (tagged? key kinds s d) (tagged? key kinds s e) := by
  cases h with
  | same =>
    cases tagged? key kinds s d with
    | none => exact .none
    | some p => exact .some ⟨rfl, .same _⟩
  | @array ds es items =>
    cases items with
    | nil => exact .none
    | cons hd hds =>
      unfold tagged?
      dsimp only
      rw [kind?_eq kinds hd, Document.all_isReadable hds]
      exact rel_beside _ (.array hds)
  | @object ms ms' es hnodup order keys values =>
    have hobject : (Document.object ms).Rearranges (.object es) := .object hnodup order keys values
    have hunder := membersUnder_rearranges hobject key
    have hothers := hobject.filter fun k => k ≠ key
    have hreadable := hothers.all_isReadable
    unfold tagged?
    dsimp only
    generalize membersUnder key ms = ds at hunder ⊢
    generalize membersUnder key es = es at hunder ⊢
    cases hunder with
    | nil => exact .none
    | cons hd hds =>
      cases hds with
      | nil =>
        dsimp only
        rw [kind?_eq kinds hd, hreadable]
        exact rel_beside _ hothers
      | cons _ _ => exact .none

end Json

open Json

/-! ## 5. Settings -/

theorem ScriptMode.respects : Respects ScriptMode.decode := respects_choice _

theorem Role.respects : Respects Role.decode := respects_choice _

theorem NodeType.respects : Respects NodeType.decode := respects_choice _

theorem CompletionBody.respects : Respects decode := .of_fields fun s _ _ h hlength => by
  match h, hlength with
  | .cons model (.cons systemPrompt (.cons temperature (.cons maxTokens (.cons stream
      (.cons maxToolRounds .nil))))), _ =>
    dsimp only
    rw [model.getD respects_string, systemPrompt.getD respects_string,
      temperature.omittable respects_real, maxTokens.omittable (respects_natural _),
      stream.getD respects_bool, maxToolRounds.omittable (respects_natural _)]

theorem SwitchBody.respects : Respects decode := .of_fields fun s _ _ h hlength => by
  match h, hlength with
  | .cons cases (.cons labels (.cons selector .nil)), _ =>
    dsimp only
    rw [cases.getD (respects_natural _), labels.getD respects_string.list,
      selector.getD respects_string]

theorem TransformBody.respects : Respects decode := .of_fields fun s _ _ h hlength => by
  match h, hlength with
  | .cons mode (.cons source .nil), _ =>
    dsimp only
    rw [mode.getD ScriptMode.respects, source.getD respects_string]

theorem GetVariableBody.respects : Respects decode := .of_fields fun s _ _ h hlength => by
  match h, hlength with
  | .cons path (.cons defaultValue .nil), _ =>
    dsimp only
    rw [path.getD respects_string, defaultValue.omittable respects_value]

theorem SetVariableBody.respects : Respects decode := .of_fields fun s _ _ h hlength => by
  match h, hlength with
  | .cons path (.cons expression .nil), _ =>
    dsimp only
    rw [path.getD respects_string, expression.getD respects_string]

theorem ContextMessageBody.respects : Respects decode := .of_fields fun s _ _ h hlength => by
  match h, hlength with
  | .cons role (.cons text (.cons priority .nil)), _ =>
    dsimp only
    rw [role.getD Role.respects, text.getD respects_string,
      priority.omittable (respects_integer _ _)]

theorem RandomizerBody.respects : Respects decode := .of_fields fun s _ _ h hlength => by
  match h, hlength with
  | .cons toolName (.cons description (.cons choices .nil)), _ =>
    dsimp only
    rw [toolName.getD respects_string, description.getD respects_string,
      choices.getD respects_string.list]

theorem RetrievalBody.respects : Respects decode := .of_fields fun s _ _ h hlength => by
  match h, hlength with
  | .cons storeId (.cons topK (.cons maxQueries (.cons guidance .nil))), _ =>
    dsimp only
    rw [storeId.getD respects_string, topK.getD (respects_natural _),
      maxQueries.getD (respects_natural _), guidance.getD respects_string]

theorem AttachedDocument.respects : Respects decode := .of_fields fun s _ _ h hlength => by
  match h, hlength with
  | .cons id (.cons title (.cons text .nil)), _ =>
    dsimp only
    rw [id.getD respects_string, title.getD respects_string, text.getD respects_string]

theorem DocumentReaderBody.respects : Respects decode := .of_fields fun s _ _ h hlength => by
  match h, hlength with
  | .cons documents (.cons maxChars .nil), _ =>
    dsimp only
    rw [documents.getD AttachedDocument.respects.list, maxChars.getD (respects_natural _)]

theorem GlobalStateBody.respects : Respects decode := .of_fields fun s _ _ h hlength => by
  match h, hlength with
  | .cons allowWrite (.cons scope .nil), _ =>
    dsimp only
    rw [allowWrite.getD respects_bool, scope.getD respects_string]

/-! ## 6. Nodes, edges, graphs -/

theorem Json.Respects.map {α β : Type} {decode : Decoder α} (h : Respects decode) (f : α → β) :
    Respects fun s d => (decode s d).map f := fun s _ _ hd => congrArg (Option.map f) (h s hd)

namespace NodeBody

theorem respects_plain (b : NodeBody) : Respects fun _ d => (fields? [] d).map fun _ => b := by
  intro s d e hd
  dsimp only
  have hfields := fields?_rearranges [] hd
  generalize fields? [] d = x at hfields ⊢
  generalize fields? [] e = y at hfields ⊢
  cases hfields <;> rfl

theorem respects_ifElse : Respects (decodeFor .ifElse) := .of_fields fun s _ _ h hlength => by
  match h, hlength with
  | .cons condition .nil, _ =>
    dsimp only
    rw [condition.getD respects_string]

theorem decodeFor_respects (type : NodeType) : Respects (decodeFor type) := by
  cases type with
  | start => exact respects_plain _
  | finish => exact respects_plain _
  | completion => exact CompletionBody.respects.map _
  | ifElse => exact respects_ifElse
  | switch => exact SwitchBody.respects.map _
  | transform => exact TransformBody.respects.map _
  | getVariable => exact GetVariableBody.respects.map _
  | setVariable => exact SetVariableBody.respects.map _
  | contextMessage => exact ContextMessageBody.respects.map _
  | randomizer => exact RandomizerBody.respects.map _
  | retrieval => exact RetrievalBody.respects.map _
  | documentReader => exact DocumentReaderBody.respects.map _
  | globalState => exact GlobalStateBody.respects.map _

/-- The type is found among the other members in any order, and then so are its settings. -/
theorem respects : Respects decode := by
  intro s d e h
  unfold decode
  have htagged := tagged?_rearranges (s := s) "type" (NodeType.all.map (·.name)) h
  generalize tagged? _ _ s d = x at htagged ⊢
  generalize tagged? _ _ s e = y at htagged ⊢
  cases htagged with
  | none => rfl
  | @some a b hab =>
    obtain ⟨name, others⟩ := a
    obtain ⟨name', others'⟩ := b
    obtain ⟨rfl, hothers⟩ := hab
    exact Option.bind_congr fun type _ => decodeFor_respects type .held hothers

end NodeBody

/-- A node's own members are left out before its settings are read, in any order. -/
theorem NodeData.respects : Respects decode := by
  intro s d e h
  cases h with
  | same => rfl
  | array => rfl
  | @object ms ms' es hnodup order keys values =>
    have hobject : (Document.object ms).Rearranges (.object es) := .object hnodup order keys values
    have hothers := hobject.filter fun k => k ∉ ownNames
    have hreadable := hothers.all_isReadable
    have hfields := fields?_rearranges ownNames hobject
    unfold decode
    dsimp only
    generalize fields? ownNames (.object ms) = x at hfields ⊢
    generalize fields? ownNames (.object es) = y at hfields ⊢
    cases hfields with
    | none => rfl
    | some hfs =>
      match hfs with
      | ⟨.cons title (.cons label (.cons muted .nil)), _⟩ =>
        dsimp only [Option.bind_eq_bind, Option.bind_some]
        rw [hreadable, title.required respects_string, label.getD respects_string,
          muted.getD respects_bool, NodeBody.respects .held hothers]

theorem Edge.respects : Respects decode := .of_fields fun s _ _ h hlength => by
  match h, hlength with
  | .cons id (.cons source (.cons target (.cons sourcePort (.cons targetPort .nil)))), _ =>
    dsimp only
    rw [id.required respects_string, source.required respects_string,
      target.required respects_string, sourcePort.omittable respects_string,
      targetPort.omittable respects_string]

theorem Node.respects : Respects decode := .of_fields fun s _ _ h hlength => by
  match h, hlength with
  | .cons id (.cons type (.cons data .nil)), _ =>
    dsimp only
    rw [id.required respects_string, type.required NodeType.respects,
      data.required NodeData.respects]

/-- **A graph is read from a document in any order of members.** -/
theorem Graph.respects : Respects decode := .of_fields fun s _ _ h hlength => by
  match h, hlength with
  | .cons nodes (.cons edges .nil), _ =>
    dsimp only
    rw [nodes.required Node.respects.list, edges.required Edge.respects.list]

end Workgraph
