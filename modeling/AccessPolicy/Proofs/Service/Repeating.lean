import AccessPolicy.Proofs.Service.Replacing
import AccessPolicy.Proofs.Service.Retrying

/-!
# Repeating an amendment

As long as nothing befalls the requests to a store and no one else changes it, an amendment writes
exactly if it alters the policy that is there: if a member of a grant does not hold the role yet, or
one of a revocation does. What it gives is what is stored from then on, and it does not alter that
again, so to repeat it is to read once.

* `Store.Calm`, `Store.Serves`: nothing befalls requests, and a resource has a policy;
* `Amendment.apply_same_iff`: what an amendment alters;
* `Amendment.Effect`, `Amendment.run_effect`: what an amendment comes to;
* `Amendment.run_repeats`: when it writes, and what its repetitions come to.
-/

namespace AccessPolicy

/-! ### Calm stores -/

namespace Store

/-- Nothing befalls the requests to a store, no one else changes it, and it answers writes with what
was stored. -/
structure Calm (s : Store) : Prop where
  /-- No read fails. -/
  readFaults : ∀ f ∈ s.readFaults, f = none
  /-- No write fails. -/
  writeFaults : ∀ f ∈ s.writeFaults, f = none
  /-- No changes by others are to come. -/
  edits : s.edits = []
  /-- The answer to a write is what was stored. -/
  writeAnswer : s.writeAnswer = none

/-- A calm store in which the document of a resource has a text for its tag and reads as a
policy. -/
structure Serves (s : Store) (name : String) (p : Policy) : Prop where
  /-- Nothing befalls requests. -/
  calm : s.Calm
  /-- The document is one that a service can send. -/
  json : (s.current name).isJson = true
  /-- The tag of the document is a text. -/
  tagged : ∃ t, etagOf (s.current name) = .text t
  /-- The document reads as the policy. -/
  decodes : Policy.decode (s.current name) = .ok p

theorem takeFault_of_forall {faults : List (Option Fault)} (h : ∀ f ∈ faults, f = none) :
    takeFault faults = (none, faults.drop 1) := by
  cases faults with
  | nil => rfl
  | cons f rest => rw [takeFault, h f (by simp), List.drop_one, List.tail_cons]

/-- The store after a read. -/
def afterRead (s : Store) (name : String) : Store :=
  { s with readFaults := s.readFaults.drop 1 }.touch name

theorem current_afterRead (s : Store) (name : String) : (s.afterRead name).current = s.current :=
  congrArg View.current (view_touch { s with readFaults := s.readFaults.drop 1 } name)

theorem document?_touch_ne_none (s : Store) (name : String) :
    (s.touch name).document? name ≠ none := by
  cases hdocument : s.document? name <;> simp [touch, hdocument]

/-- A resource that has its document already is given none by a read. -/
theorem afterRead_of_document? {s : Store} {name : String} (h : s.document? name ≠ none) :
    s.afterRead name = { s with readFaults := s.readFaults.drop 1 } := by
  obtain ⟨document, hdocument⟩ := Option.ne_none_iff_exists'.mp h
  have hdrop : { s with readFaults := s.readFaults.drop 1 }.document? name = some document :=
    hdocument
  rw [afterRead, touch, hdrop]

namespace Calm

variable {s : Store} (h : s.Calm) {name : String}

include h

theorem touch : (s.touch name).Calm := by
  unfold Store.touch
  split
  · exact h
  · exact ⟨h.readFaults, h.writeFaults, h.edits, h.writeAnswer⟩

theorem afterRead : (s.afterRead name).Calm := by
  have hdrop : Calm { s with readFaults := s.readFaults.drop 1 } :=
    ⟨fun f hf => h.readFaults f (List.mem_of_mem_drop hf), h.writeFaults, h.edits, h.writeAnswer⟩
  exact hdrop.touch

theorem read : s.read name = (s.afterRead name, .ok (s.current name)) := by
  rw [Store.read, takeFault_of_forall h.readFaults]
  rfl

/-- A write that carries the tag of the document is stored. -/
theorem write {fields : List (Value × Value)}
    (hsame : carriesOther (etagOf (s.current name)) fields = false) :
    ∃ t : Store, s.write name fields = (t, .ok (s.view.stored fields)) ∧ t.Calm ∧
      t.current name = s.view.stored fields ∧ t.document? name ≠ none := by
  -- no fault and no change by others comes first, so the write meets the documents as they are
  obtain ⟨met, harrive, hmet, hview⟩ : ∃ met, s.arrive = (met, .ok ()) ∧ met.Calm ∧
      met.view = s.view := by
    refine ⟨{ s with writeFaults := s.writeFaults.drop 1 }, ?_, ⟨h.readFaults, fun f hf =>
      h.writeFaults f (List.mem_of_mem_drop hf), h.edits, h.writeAnswer⟩, rfl⟩
    rw [arrive, takeFault_of_forall h.writeFaults]
    simp only [takeEdit, h.edits]
  have hcurrent : met.current = s.current := congrArg View.current hview
  have htouch : (met.touch name).Calm := hmet.touch
  refine ⟨((met.touch name).accept name fields).1, ?_,
    ⟨htouch.readFaults, htouch.writeFaults, htouch.edits, htouch.writeAnswer⟩, ?_, ?_⟩
  · rw [← hview]
    exact write_of_accepted harrive hmet.writeAnswer (by rwa [hcurrent])
  · rw [← hview]
    exact current_accept_touch met name fields
  · exact Option.ne_none_iff_exists'.mpr ⟨_, document?_setDocument_self (met.touch name) name _⟩

end Calm

namespace Serves

variable {s : Store} {name : String} {p : Policy} (h : s.Serves name p)

include h

theorem exists_etag : ∃ t, p.etag = .text t ∧ etagOf (s.current name) = .text t := by
  obtain ⟨t, ht⟩ := h.tagged
  exact ⟨t, Policy.etag_of_decode h.decodes ht, ht⟩

theorem sent : p.Sent := by
  obtain ⟨t, ht⟩ := h.tagged
  have hjson := h.json
  have hdecodes := h.decodes
  cases hcurrent : s.current name with
  | map fields =>
    rw [hcurrent] at hjson hdecodes
    exact Policy.sent_of_decode (by simpa [Value.isJson] using hjson) hdecodes
  | _ => simp [hcurrent, etagOf] at ht

theorem afterRead : (s.afterRead name).Serves name p where
  calm := h.calm.afterRead
  json := by rw [current_afterRead]; exact h.json
  tagged := by rw [current_afterRead]; exact h.tagged
  decodes := by rw [current_afterRead]; exact h.decodes

/-- A policy with the tag of the one that is there is stored, and is there from then on. -/
theorem write {q : Policy} (hq : q.Sent) (hetag : q.etag = p.etag)
    {fields : List (Value × Value)} (hfields : Edit.fieldsOf q = .ok fields) :
    ∃ (t : Store) (document : Value) (r : Policy),
      s.write name fields = (t, .ok document) ∧ Policy.decode document = .ok r ∧
        t.Serves name r ∧ r.bindings.same q.bindings = true ∧ t.document? name ≠ none := by
  obtain ⟨tag, hp, htag⟩ := h.exists_etag
  have hqetag : q.etag = .text tag := hetag.trans hp
  have hsame : carriesOther (etagOf (s.current name)) fields = false :=
    ((Edit.renders_of_fieldsOf hfields).carriesOther_eq_false_iff (.inr ⟨tag, hqetag⟩) _).mpr
      (.inr (hqetag.trans htag.symm))
  obtain ⟨t, hwrite, hcalm, hcurrent, hdocument⟩ := h.calm.write hsame
  obtain ⟨bs, hdecode, hbindings⟩ :=
    hq.exists_decode_stored hfields (View.tag (s.view.issued + 1))
  have hjson := hq.fieldsJson (by rw [hqetag]; rfl) hfields
  refine ⟨t, _, _, hwrite, hdecode, ⟨hcalm, ?_, ?_, ?_⟩, hbindings, hdocument⟩
  · rw [hcurrent, View.stored, Value.isJson]
    exact Value.fieldsJson_putField hjson _ rfl
  · rw [hcurrent]
    exact ⟨_, Value.field_putField_self _ _ _⟩
  · rw [hcurrent]
    exact hdecode

end Serves

end Store

namespace Policy.Sent

variable {p : Policy} (h : p.Sent) {t : String} (ht : p.etag = .text t)

include h ht

theorem sameField_self : sameField p.etag p.etag = true ∧ sameField p.version p.version = true :=
  ⟨(sameField_iff_of_text (.inr ⟨t, ht⟩)).mpr rfl,
    (sameField_iff_of_int h.version h.version).mpr rfl⟩

/-- A policy as it is read from a service, with a text for its tag, is equal to itself. -/
theorem same_self : p.same p = true := by
  obtain ⟨hetag, hversion⟩ := h.sameField_self ht
  simp [same, Bindings.same_self h.sound, hetag, hversion]

end Policy.Sent

/-! ### What an amendment alters -/

namespace Amendment

variable (a : Amendment)

/-- Whether an amendment alters a policy: a member of a grant does not hold the role yet, or one of
a revocation holds it. -/
def Alters (p : Policy) : Prop :=
  match a.kind with
  | .grant => ∃ i ∈ a.ids, ¬ p.bindings.Holds a.role i
  | .revoke => ∃ i ∈ a.ids, p.bindings.Holds a.role i

theorem has_ids_iff {i : Identity} : Members.has a.ids i = true ↔ i ∈ a.ids :=
  Members.has_iff_mem fun m hm => (a.ids_canonical m hm).textual

/-- Nothing is altered exactly if all is held afterwards as before. -/
theorem not_alters_iff {p : Policy} (h : p.bindings.Sound) :
    ¬ a.Alters p ↔ ∀ r i, a.After p.bindings.Holds r i ↔ p.bindings.Holds r i := by
  have hrole : ∀ {r : Role}, a.role.same r = true → ∀ i,
      p.bindings.Holds r i ↔ p.bindings.Holds a.role i := fun hr =>
    h.apart.holds_congr_role ((Role.same_iff_key a.role_full.hashable).mp hr).symm
  have hself : a.role.same a.role = true := (Role.same_iff_key a.role_full.hashable).mpr rfl
  unfold Alters After
  cases a.kind with
  | grant =>
    simp only [a.has_ids_iff, not_exists, not_and, not_not]
    constructor
    · intro hall r i
      exact or_iff_left_of_imp fun ⟨hr, hi⟩ => (hrole hr i).mpr (hall i hi)
    · exact fun hsame i hi => (hsame a.role i).mp (.inr ⟨hself, hi⟩)
  | revoke =>
    simp only [a.has_ids_iff, not_exists, not_and]
    constructor
    · intro hall r i
      exact and_iff_left_of_imp fun hholds hr hi => hall i hi ((hrole hr i).mp hholds)
    · exact fun hsame i hi hholds => ((hsame a.role i).mpr hholds).2 hself hi

/-- What is held after an amendment is held after the same amendment again. -/
theorem after_after (holds : Role → Identity → Prop) (r : Role) (i : Identity) :
    a.After (a.After holds) r i ↔ a.After holds r i := by
  unfold After
  cases a.kind <;> simp only <;> tauto

/-- **What an amendment alters.** The policy that it makes is equal to the one before exactly if it
alters nothing. -/
theorem apply_same_iff {p : Policy} (h : p.Sent) {t : String} (ht : p.etag = .text t) :
    (a.apply p).same p = true ↔ ¬ a.Alters p := by
  obtain ⟨hetag, hversion⟩ := h.sameField_self ht
  have hsame : (a.apply p).same p = (a.apply p).bindings.same p.bindings := by
    simp [Policy.same, apply, hetag, hversion]
  rw [hsame, Bindings.same_iff_holds (a.apply_sound h.sound) h.sound, a.not_alters_iff h.sound]
  exact forall₂_congr fun r i => iff_congr (a.holds_apply h.sound r i) Iff.rfl

/-- **No amendment alters what it made.** -/
theorem not_alters_of_same {p q : Policy} (hp : p.bindings.Sound) (hq : q.bindings.Sound)
    (h : q.bindings.same (a.apply p).bindings = true) : ¬ a.Alters q := by
  rw [Bindings.same_iff_holds hq (a.apply_sound hp)] at h
  have hholds : q.bindings.Holds = a.After p.bindings.Holds :=
    funext₂ fun r i => propext ((h r i).trans (a.holds_apply hp r i))
  rw [a.not_alters_iff hq, hholds]
  exact a.after_after p.bindings.Holds

/-! ### What an amendment comes to -/

/-- What an amendment comes to in a calm store: the requests made, the store after them, and the
policy given. -/
inductive Effect (call : Edit.Call) (s : Store) (p : Policy) :
    List Request → Store → Policy → Prop where
  /-- Nothing is altered, and the policy is only read. -/
  | read (h : ¬ a.Alters p) : Effect call s p [call.readRequest] (s.afterRead call.name) p
  /-- The policy is altered and written, and is not altered by the same amendment again. -/
  | written {fields : List (Value × Value)} {t : Store} {q : Policy} (h : a.Alters p)
    (hserves : t.Serves call.name q) (hdocument : t.document? call.name ≠ none)
    (hq : ¬ a.Alters q) :
    Effect call s p [call.readRequest, call.writeRequest fields] t q

variable {a} {call : Edit.Call} {s t : Store} {p : Policy}

/-- What is there after an amendment is what it gave. -/
theorem Effect.serves {requests : List Request} {q : Policy}
    (heffect : a.Effect call s p requests t q) (h : s.Serves call.name p) :
    t.Serves call.name q ∧ t.document? call.name ≠ none ∧ ¬ a.Alters q := by
  cases heffect with
  | read hp => exact ⟨h.afterRead, Store.document?_touch_ne_none _ call.name, hp⟩
  | written _ hserves hdocument hq => exact ⟨hserves, hdocument, hq⟩

/-- There is a write exactly if the policy is altered. -/
theorem Effect.write_iff {requests : List Request} {q : Policy}
    (heffect : a.Effect call s p requests t q) :
    0 < Edit.requestCount "setIamPolicy" requests ↔ a.Alters p := by
  cases heffect with
  | read hno => exact iff_of_false (Nat.lt_irrefl 0) hno
  | written hyes => exact iff_of_true Nat.zero_lt_one hyes

/-- What is fetched from a calm store is what is there. -/
private theorem fetched_eq (h : s.Serves call.name p) {current : Policy}
    (hfetched : Edit.Fetched call s t current) : t = s.afterRead call.name ∧ current = p := by
  obtain ⟨document, hread, hdecode⟩ := hfetched
  have hanswer : (s.afterRead call.name, Except.ok (s.current call.name)) =
      (t, Except.ok document) := h.calm.read.symm.trans hread
  simp only [Prod.mk.injEq, Except.ok.injEq] at hanswer
  obtain ⟨rfl, rfl⟩ := hanswer
  exact ⟨rfl, Except.ok.inj (hdecode.symm.trans h.decodes)⟩

/-- What is drafted from a calm store is stored there, and is not altered again. -/
private theorem stored_of_drafted (hchange : call.change = a.change) (h : s.Serves call.name p)
    {updated : Policy} {fields : List (Value × Value)}
    (hdrafted : Edit.Drafted call s t updated fields) :
    ∃ (u : Store) (document : Value) (q : Policy),
      Service.answer t (call.writeRequest fields) = (u, .ok document) ∧
        Policy.decode document = .ok q ∧
        a.Effect call s p [call.readRequest, call.writeRequest fields] u q := by
  obtain ⟨⟨current, hfetched, hchanged, hdiffers⟩, hfields⟩ := hdrafted
  obtain ⟨rfl, rfl⟩ := fetched_eq h hfetched
  rw [hchange, a.changed_eq h.sent.sound, Except.ok.injEq] at hchanged
  subst hchanged
  obtain ⟨tag, htag, -⟩ := h.exists_etag
  -- only a draft that differs from what was read is sent
  have halters : a.Alters current := by
    rw [← not_not (a := a.Alters current), ← a.apply_same_iff h.sent htag]
    simp [hdiffers]
  obtain ⟨u, document, q, hwrite, hdecode, hserves, hsame, hdocument⟩ :=
    h.afterRead.write (a.apply_sent h.sent) rfl hfields
  exact ⟨u, document, q, hwrite, hdecode, .written halters hserves hdocument
    (a.not_alters_of_same h.sent.sound hserves.sent.sound hsame)⟩

/-- **An attempt in a calm store** reads, and writes if the policy is altered. -/
private theorem effect_of_attempted (hchange : call.change = a.change) (h : s.Serves call.name p)
    {events : List Event} {outcome : Except Failure Policy}
    (hattempted : Edit.Attempted call s events t outcome) :
    ∃ q, outcome = .ok q ∧ a.Effect call s p (events.filterMap Event.request?) t q := by
  have hread : Service.answer s call.readRequest =
      (s.afterRead call.name, .ok (s.current call.name)) := h.calm.read
  have hmade := a.changed_eq h.sent.sound
  -- reading, decoding, changing and encoding succeed here, which leaves two ways out
  cases hattempted with
  | unread hfails => simp [hread] at hfails
  | undecoded hfetched hdecode =>
    simp only [hread, Prod.mk.injEq, Except.ok.injEq] at hfetched
    simp [← hfetched.2, h.decodes] at hdecode
  | unmade hfetched hchanged =>
    obtain ⟨rfl, rfl⟩ := fetched_eq h hfetched
    simp [hchange, hmade] at hchanged
  | unchanged hfetched hchanged hsame =>
    obtain ⟨rfl, rfl⟩ := fetched_eq h hfetched
    rw [hchange, hmade, Except.ok.injEq] at hchanged
    subst hchanged
    obtain ⟨tag, htag, -⟩ := h.exists_etag
    exact ⟨_, rfl, .read ((a.apply_same_iff h.sent htag).mp hsame)⟩
  | unwritable hfetched hchanged _ hfields =>
    obtain ⟨rfl, rfl⟩ := fetched_eq h hfetched
    rw [hchange, hmade, Except.ok.injEq] at hchanged
    subst hchanged
    obtain ⟨fields, hencodes⟩ := (a.apply_sent h.sent).exists_fieldsOf
    simp [hencodes] at hfields
  | sent hdrafted hwrite =>
    obtain ⟨u, document, q, hstored, hdecode, heffect⟩ := stored_of_drafted hchange h hdrafted
    simp only [hwrite, Prod.mk.injEq] at hstored
    obtain ⟨rfl, rfl⟩ := hstored
    exact ⟨q, hdecode, heffect⟩

/-- No attempt in a calm store is refused. -/
private theorem not_refused (hchange : call.change = a.change) (h : s.Serves call.name p)
    {events : List Event} : ¬ Edit.Refused call s events t := by
  intro hrefused
  cases hrefused with
  | read _ hfails =>
    have hread : Service.answer s call.readRequest =
      (s.afterRead call.name, .ok (s.current call.name)) := h.calm.read
    simp [hread] at hfails
  | write _ hdrafted hwrite =>
    obtain ⟨u, document, q, hstored, -, -⟩ := stored_of_drafted hchange h hdrafted
    simp [hwrite] at hstored

/-- So no attempt comes before the last. -/
private theorem retried_eq (hchange : call.change = a.change) (h : s.Serves call.name p) {n : Nat}
    {events : List Event} (hretried : Edit.Retried call s n events t) : events = [] ∧ t = s := by
  induction hretried with
  | none => exact ⟨rfl, rfl⟩
  | again _ hrefused ih =>
    obtain ⟨-, rfl⟩ := ih
    exact absurd hrefused (not_refused hchange h)

/-- **What an amendment comes to** in a calm store, if credentials are found. -/
theorem run_effect (a : Amendment) {h : Handle} {w : World Store} {given : Option Credentials}
    (hserves : w.service.Serves h.resource.fullName p) {c : Credentials}
    (hc : (h.credentials w given).2 = .ok c) :
    ∃ q, (a.run h w given).2 = .ok q ∧ (a.run h w given).1.ambient = w.ambient ∧
      a.Effect ⟨h.resource.collection, h.resource.fullName, some c, a.change⟩ w.service p
        ((a.run h w given).1.requestsSince w) (a.run h w given).1.service q := by
  have hcalling : ∀ b, Builder.Calling b (a.change b) := by
    unfold change
    cases a.kind with
    | grant => exact Handle.calling_granting _ _
    | revoke => exact Handle.calling_revoking _ _
  obtain ⟨events, hnone, hrun⟩ := Handle.withCredentials_of_ok hc fun w c =>
    w.modify c h.resource.fullName a.change
  have halong : Edit.Along ⟨h.resource.collection, h.resource.fullName, some c, a.change⟩ _ _ _ :=
    Edit.Along.modify (Collection.owning_fullName h.resource) hcalling (w.note events)
  rw [a.run_eq, hrun]
  generalize (w.note events).modify (some c) h.resource.fullName a.change = result at halong ⊢
  obtain ⟨u, outcome⟩ := result
  cases halong with
  | @finished _ _ last _ t _ hretried _ hlast _ =>
    obtain ⟨rfl, rfl⟩ := retried_eq (a := a) rfl hserves hretried
    obtain ⟨q, rfl, heffect⟩ := effect_of_attempted (a := a) rfl hserves hlast
    have hrequests : World.requestsSince ⟨t, w.ambient, (w.note events).trace ++ [] ++ last⟩ w =
        last.filterMap Event.request? := by
      have htrace : (w.note events).trace ++ [] ++ last = w.trace ++ (events ++ last) := by
        simp [World.note]
      rw [World.requestsSince_eq htrace, List.filterMap_append, hnone, List.nil_append]
    exact ⟨q, rfl, rfl, hrequests ▸ heffect⟩

/-- Without credentials nothing is requested. -/
private theorem run_of_no_credentials (a : Amendment) {h : Handle} {w : World Store}
    {given : Option Credentials} (hc : ¬ ∃ c, (h.credentials w given).2 = .ok c) :
    (∃ e, (a.run h w given).2 = .error e) ∧ (a.run h w given).1.requestsSince w = [] := by
  obtain ⟨events, hnoted, hnone⟩ := h.credentials_noted w given
  rw [a.run_eq, Handle.withCredentials]
  generalize h.credentials w given = found at hc hnoted ⊢
  obtain ⟨u, e | c⟩ := found
  · obtain rfl : u = w.note events := hnoted
    exact ⟨⟨e, rfl⟩, (World.requestsSince_eq rfl).trans hnone⟩
  · exact absurd ⟨c, rfl⟩ hc

/-! ### Repetitions -/

/-- A calm store after an amendment: there is the policy that it gave, which it does not alter, and
credentials are found. -/
structure Settled (a : Amendment) (h : Handle) (given : Option Credentials) (q : Policy)
    (w : World Store) : Prop where
  /-- The policy that was given is there. -/
  serves : w.service.Serves h.resource.fullName q
  /-- The resource has its document. -/
  document : w.service.document? h.resource.fullName ≠ none
  /-- The policy is not altered by the amendment. -/
  unaltered : ¬ a.Alters q
  /-- Credentials are found. -/
  credentials : ∃ c, (h.credentials w given).2 = .ok c

/-- What a repetition of an amendment comes to, in terms of the policy that was given before. -/
structure Repeats (a : Amendment) (h : Handle) (given : Option Credentials) (q : Policy)
    (w : World Store) : Prop where
  /-- The policy is given again. -/
  gives : (a.run h w given).2 = .ok q
  /-- It is equal to itself, as no tag or version of policies that are no numbers would be. -/
  equal : q.same q = true
  /-- The policy is read once, and nothing else is requested. -/
  requests : ∃ c, (a.run h w given).1.requestsSince w =
    [⟨h.resource.collection, h.resource.fullName, .getPolicy .null, c⟩]
  /-- The store is what it was, but that the read is done. -/
  store : (a.run h w given).1.service =
    { w.service with readFaults := w.service.readFaults.drop 1 }

variable {h : Handle} {given : Option Credentials} {w : World Store} {q : Policy}

private theorem credentials_of_ambient {u : World Store} (hambient : u.ambient = w.ambient) :
    (h.credentials u given).2 = (h.credentials w given).2 := by
  unfold Handle.credentials
  cases given with
  | some c => rfl
  | none => cases h.stored <;> simp [hambient]

/-- An amendment that gave a policy leaves a store that is settled. -/
theorem settled_run (hserves : w.service.Serves h.resource.fullName p)
    (hq : (a.run h w given).2 = .ok q) : a.Settled h given q (a.run h w given).1 := by
  have hcredentials : ∃ c, (h.credentials w given).2 = .ok c := by
    by_contra hc
    obtain ⟨⟨e, he⟩, -⟩ := run_of_no_credentials a hc
    simp [he] at hq
  obtain ⟨c, hc⟩ := hcredentials
  obtain ⟨r, hr, hambient, heffect⟩ := run_effect a hserves hc
  obtain rfl := Except.ok.inj (hq.symm.trans hr)
  obtain ⟨hafter, hdocument, hunaltered⟩ := heffect.serves hserves
  exact ⟨hafter, hdocument, hunaltered, c, (credentials_of_ambient hambient).trans hc⟩

/-- **A repetition** reads once and leaves the store as it was. -/
theorem Settled.repeats (hw : a.Settled h given q w) : a.Repeats h given q w := by
  obtain ⟨c, hc⟩ := hw.credentials
  obtain ⟨r, hr, -, heffect⟩ := run_effect a hw.serves hc
  obtain ⟨tag, htag, -⟩ := hw.serves.exists_etag
  -- of the two effects only reading is left, as the amendment alters nothing
  generalize hrequests : (a.run h w given).1.requestsSince w = requests at heffect
  generalize hstore : (a.run h w given).1.service = t at heffect
  cases heffect with
  | read _ =>
    exact ⟨hr, hw.serves.sent.same_self htag, ⟨some c, hrequests⟩,
      hstore.trans (Store.afterRead_of_document? hw.document)⟩
  | written halters => exact absurd halters hw.unaltered

/-- **Repetitions.** What a repetition leaves is settled as before. -/
theorem Settled.run (hw : a.Settled h given q w) : a.Settled h given q (a.run h w given).1 :=
  settled_run hw.serves hw.repeats.gives

theorem Settled.iterate (hw : a.Settled h given q w) (n : Nat) :
    a.Settled h given q ((fun u => (a.run h u given).1)^[n] w) := by
  induction n with
  | zero => exact hw
  | succ n ih =>
    rw [Function.iterate_succ_apply']
    exact ih.run

/-- **Amendments write what they alter, and only once.** In a calm store in which the document of a
resource has a text for its tag and reads as a policy, an amendment requests a write exactly if
credentials are found and it alters the policy, and it gives a policy if credentials are found. Once
it gave a policy, each repetition reads once, writes nothing, leaves the store as it was, and gives
the same policy. -/
theorem run_repeats (a : Amendment) (h : Handle) (w : World Store) (given : Option Credentials)
    {p : Policy} (hserves : w.service.Serves h.resource.fullName p) :
    (0 < Edit.requestCount "setIamPolicy" ((a.run h w given).1.requestsSince w) ↔
      (∃ c, (h.credentials w given).2 = .ok c) ∧ a.Alters p) ∧
    ((∃ c, (h.credentials w given).2 = .ok c) → ∃ q, (a.run h w given).2 = .ok q) ∧
    ∀ q, (a.run h w given).2 = .ok q →
      ∀ n, a.Repeats h given q ((fun u => (a.run h u given).1)^[n + 1] w) := by
  refine ⟨?_, fun ⟨c, hc⟩ => ?_, fun q hq n => ?_⟩
  · by_cases hc : ∃ c, (h.credentials w given).2 = .ok c
    · obtain ⟨c, hfound⟩ := hc
      obtain ⟨q, -, -, heffect⟩ := run_effect a hserves hfound
      rw [heffect.write_iff]
      exact (and_iff_right ⟨c, hfound⟩).symm
    · rw [(run_of_no_credentials a hc).2]
      exact iff_of_false (Nat.lt_irrefl 0) fun hyes => hc hyes.1
  · obtain ⟨q, hq, -⟩ := run_effect a hserves hc
    exact ⟨q, hq⟩
  · exact ((settled_run hserves hq).iterate n).repeats

/-- A grant to one who holds the role by an entry under its bare name, and to one who does not: it
writes, and its repetitions do not. -/
theorem run_repeats_bare_name :
    ∃ (a : Amendment) (h : Handle) (w : World Store) (p q : Policy),
      w.service.documents = [("projects/p", .ofFields [("etag", .text "a"), ("bindings", .list
        [.ofFields [("role", .text "viewer"), ("members", .list [.text "user:ann@example.com"])],
          .ofFields [("role", .text "roles/viewer"), ("members", .list [])]])])] ∧
      a.members = ["user:ann@example.com", "user:bob@example.com"] ∧
      w.service.Serves h.resource.fullName p ∧ a.Alters p ∧ (a.run h w none).2 = .ok q ∧
      ∀ n, a.Repeats h none q ((fun u => (a.run h u none).1)^[n + 1] w) := by
  let a : Amendment := ⟨.grant, "viewer", ["user:ann@example.com", "user:bob@example.com"],
    [⟨.user, .text "ann@example.com"⟩, ⟨.user, .text "bob@example.com"⟩], by simp, rfl⟩
  let h : Handle := { resource := ⟨.projects, .text "p"⟩, stored := some "me" }
  let w : World Store := { service := {
    documents := [("projects/p", .ofFields [("etag", .text "a"), ("bindings", .list
      [.ofFields [("role", .text "viewer"), ("members", .list [.text "user:ann@example.com"])],
        .ofFields [("role", .text "roles/viewer"), ("members", .list [])]])])] } }
  let p : Policy := ⟨.roles, [({ name := .text "roles/viewer" },
    [⟨.user, .text "ann@example.com"⟩])], .text "a", .null⟩
  have hserves : w.service.Serves h.resource.fullName p :=
    ⟨⟨by simp [w], by simp [w], rfl, rfl⟩, rfl, ⟨"a", rfl⟩, rfl⟩
  have halters : a.Alters p := by
    refine ⟨⟨.user, .text "bob@example.com"⟩, by simp [a], ?_⟩
    simp [Bindings.Holds, p, Members.has, Identity.same]
  obtain ⟨-, hgives, hrepeats⟩ := a.run_repeats h w none hserves
  obtain ⟨q, hq⟩ := hgives ⟨"me", rfl⟩
  exact ⟨a, h, w, p, q, rfl, rfl, hserves, halters, hq, hrepeats q hq⟩

end Amendment

end AccessPolicy
