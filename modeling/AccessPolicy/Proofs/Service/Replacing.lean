import AccessPolicy.Proofs.Resource.Naming
import AccessPolicy.Proofs.Service.Stored

/-!
# Replacing a policy in the course of a session

The tag of a policy guards its replacement: the write is refused exactly if the policy carries a tag
and the document has another one by then. In the course of a session this means that a policy that
was read and edited can be stored as long as no one else stored the document meanwhile; and what was
stored is what is read until the document is stored again.

* `Handle.Delivers`, `Handle.Reaches`: nothing befalls a replacement, or a read, on its way;
* `Handle.storedIn_of_mayReplace`, `Handle.replacePolicy_of_mayReplace`,
  `Handle.replacePolicy_of_not_mayReplace`: what one replacement comes to;
* `Handle.replacement_of_delivers`: what it comes to in the course of a session.
-/

namespace AccessPolicy

open Store.View (tag)

/-! ### One replacement -/

/-- A policy that a service can be sent has a document. -/
theorem Policy.Sent.exists_fieldsOf {p : Policy} (h : p.Sent) :
    ∃ fields, Edit.fieldsOf p = .ok fields := by
  obtain ⟨document, hencode⟩ := exists_encode_of_texts
    (fun e he => (h.canonical e he).1.imp fun _ hs => hs.1)
    (fun e he i hi => ((h.canonical e he).2 i hi).textual)
  obtain ⟨fields, rfl, -⟩ := renders_of_encode hencode
  exact ⟨fields, by rw [Edit.fieldsOf, hencode]⟩

/-- Whether a policy may replace a document: it has no tag, or that of the document. -/
def Policy.MayReplace (p : Policy) (document : Value) : Prop :=
  p.etag = .null ∨ p.etag = Store.etagOf document

/-- A document carries another tag exactly if its policy may not replace the stored one. -/
theorem Policy.Renders.carriesOther_eq_false_iff {p : Policy} {fields : List (Value × Value)}
    (h : p.Renders fields) (hetag : p.etag = .null ∨ ∃ s, p.etag = .text s) (document : Value) :
    Store.carriesOther (Store.etagOf document) fields = false ↔ p.MayReplace document := by
  unfold Store.carriesOther Policy.MayReplace
  rw [h.etag]
  rcases hetag with hp | ⟨s, hp⟩
  · simp [hp, Value.isNull]
  · have hsame : (Value.text s).same (Store.etagOf document) = true ↔
        Value.text s = Store.etagOf document := Value.same_text_left.trans eq_comm
    simpa [hp, Value.isNull, Policy.sameField] using hsame

/-- Whether a store is another one with a policy stored in it under the next tag. -/
def Policy.StoredIn (p : Policy) (name : String) (before after : Store) : Prop :=
  ∃ fields, Edit.fieldsOf p = .ok fields ∧ after = ((before.touch name).accept name fields).1

namespace Handle

/-- A replacement arrives at the service: credentials are found, nothing befalls the write, and the
change by someone else that comes first, if any, can be made. The store is the one it meets. -/
structure Delivers (h : Handle) (w : World Store) (given : Option Credentials) (met : Store) :
    Prop where
  /-- Credentials are found. -/
  credentials : ∃ c, (h.credentials w given).2 = .ok c
  /-- The write arrives. -/
  arrives : w.service.arrive = (met, .ok ())

/-- A read arrives at the service: credentials are found, and nothing befalls the read. -/
structure Reaches (h : Handle) (w : World Store) (given : Option Credentials) : Prop where
  /-- Credentials are found. -/
  credentials : ∃ c, (h.credentials w given).2 = .ok c
  /-- Nothing befalls the read. -/
  arrives : (Store.takeFault w.service.readFaults).1 = none

/-- To look for credentials is noted at most, and that is no request. -/
theorem credentials_noted {σ : Type} (h : Handle) (w : World σ) (given : Option Credentials) :
    ∃ events, (h.credentials w given).1 = w.note events ∧
      events.filterMap Event.request? = [] := by
  have hnote : w.note [] = w := by simp [World.note]
  unfold credentials
  split
  · exact ⟨[], hnote.symm, rfl⟩
  · exact ⟨[], hnote.symm, rfl⟩
  · exact ⟨[.defaultCredentials], rfl, rfl⟩

/-- Work is done if credentials are found. -/
theorem withCredentials_of_ok {σ α : Type} {h : Handle} {w : World σ} {given : Option Credentials}
    {c : Credentials} (hc : (h.credentials w given).2 = .ok c)
    (work : World σ → Option Credentials → World σ × Except Failure α) :
    ∃ events, events.filterMap Event.request? = [] ∧
      h.withCredentials w given work = work (w.note events) (some c) := by
  obtain ⟨events, hnoted, hnone⟩ := h.credentials_noted w given
  have hfound : h.credentials w given = (w.note events, .ok c) := Prod.ext hnoted hc
  exact ⟨events, hnone, by rw [withCredentials, hfound]⟩

/-- A replacement that arrives is a write whose reply is read. -/
theorem replacePolicy_of_delivers {h : Handle} {w : World Store}
    {given : Option Credentials} {met : Store} (hd : h.Delivers w given met) {p : Policy}
    {fields : List (Value × Value)} (hfields : Edit.fieldsOf p = .ok fields) :
    (h.replacePolicy w given p).1.service = (w.service.write h.resource.fullName fields).1 ∧
      (h.replacePolicy w given p).2 =
        (w.service.write h.resource.fullName fields).2.bind Policy.decode := by
  obtain ⟨c, hc⟩ := hd.credentials
  obtain ⟨events, -, hrun⟩ := withCredentials_of_ok hc fun w c =>
    w.setPolicy c h.resource.fullName p
  rw [replacePolicy, hrun, World.setPolicy, Collection.owning_fullName]
  simp only [hfields]
  exact ⟨rfl, rfl⟩

/-- A replacement that may happen is stored under the next tag, whatever the service answers. If it
answers with what is stored, that is given. -/
theorem storedIn_of_mayReplace {h : Handle} {w : World Store} {given : Option Credentials}
    {met : Store} (hd : h.Delivers w given met) {p : Policy} (hp : p.Sent)
    (hetag : p.etag = .null ∨ ∃ s, p.etag = .text s)
    (hmay : p.MayReplace (met.current h.resource.fullName)) :
    p.StoredIn h.resource.fullName met (h.replacePolicy w given p).1.service ∧
      ∃ bs : Bindings, bs.same p.bindings = true ∧
        Policy.decode ((h.replacePolicy w given p).1.service.current h.resource.fullName) =
          .ok ⟨.roles, bs, tag (met.issued + 1), p.version⟩ ∧
        (met.writeAnswer = none →
          (h.replacePolicy w given p).2 = .ok ⟨.roles, bs, tag (met.issued + 1), p.version⟩) := by
  obtain ⟨fields, hfields⟩ := hp.exists_fieldsOf
  obtain ⟨hservice, houtcome⟩ := replacePolicy_of_delivers hd hfields
  have hsame := ((Edit.renders_of_fieldsOf hfields).carriesOther_eq_false_iff hetag _).mpr hmay
  obtain ⟨bs, hdecode, hbindings⟩ := hp.exists_decode_stored hfields (tag (met.issued + 1))
  rw [Store.write_of_arrived hd.arrives, if_neg (by simp [hsame])] at hservice
  refine ⟨⟨fields, hfields, hservice⟩, bs, hbindings, ?_, fun hanswer => ?_⟩
  · rw [hservice, Store.current_accept_touch]
    exact hdecode
  · rw [houtcome, Store.write_of_accepted hd.arrives hanswer hsame]
    exact hdecode

/-- **A replacement that may happen** is stored, and gives the policy under the next tag. -/
theorem replacePolicy_of_mayReplace {h : Handle} {w : World Store} {given : Option Credentials}
    {met : Store} (hd : h.Delivers w given met) (hanswer : met.writeAnswer = none) {p : Policy}
    (hp : p.Sent) (hetag : p.etag = .null ∨ ∃ s, p.etag = .text s)
    (hmay : p.MayReplace (met.current h.resource.fullName)) :
    p.StoredIn h.resource.fullName met (h.replacePolicy w given p).1.service ∧
      ∃ bs : Bindings, bs.same p.bindings = true ∧
        (h.replacePolicy w given p).2 = .ok ⟨.roles, bs, tag (met.issued + 1), p.version⟩ ∧
        Policy.decode ((h.replacePolicy w given p).1.service.current h.resource.fullName) =
          .ok ⟨.roles, bs, tag (met.issued + 1), p.version⟩ := by
  obtain ⟨hstored, bs, hsame, hdecode, hgiven⟩ := storedIn_of_mayReplace hd hp hetag hmay
  exact ⟨hstored, bs, hsame, hgiven hanswer, hdecode⟩

/-- **A replacement that may not happen** is refused, and changes nothing. -/
theorem replacePolicy_of_not_mayReplace {h : Handle} {w : World Store} {given : Option Credentials}
    {met : Store} (hd : h.Delivers w given met) {p : Policy}
    (hp : p.Sent) (hetag : p.etag = .null ∨ ∃ s, p.etag = .text s)
    (hmay : ¬ p.MayReplace (met.current h.resource.fullName)) :
    (h.replacePolicy w given p).1.service = met.touch h.resource.fullName ∧
      (h.replacePolicy w given p).2 = .error Store.conflict := by
  obtain ⟨fields, hfields⟩ := hp.exists_fieldsOf
  obtain ⟨hservice, houtcome⟩ := replacePolicy_of_delivers hd hfields
  rw [← (Edit.renders_of_fieldsOf hfields).carriesOther_eq_false_iff hetag,
    Bool.not_eq_false] at hmay
  rw [Store.write_of_refused hd.arrives hmay] at hservice houtcome
  exact ⟨hservice, houtcome⟩

/-! ### Reads -/

private theorem getPolicy_of_owning {w : World Store} {c : Option Credentials} {name : String}
    {version : Value} {collection : Collection} (h : Collection.owning name = .ok collection) :
    (w.getPolicy c name version).2 = (w.service.read name).2.bind Policy.decode := by
  rw [World.getPolicy, h]
  rfl

/-- A read that arrives gives what the document reads as. -/
theorem policy_of_reaches {h : Handle} {w : World Store} {given : Option Credentials}
    (hr : h.Reaches w given) (version : Value) :
    (h.policy w given version).2 = Policy.decode (w.service.current h.resource.fullName) := by
  obtain ⟨c, hc⟩ := hr.credentials
  obtain ⟨events, -, hrun⟩ := withCredentials_of_ok hc fun w c =>
    w.getPolicy c h.resource.fullName version
  have hread : ((w.note events).service.read h.resource.fullName).2 =
      .ok (w.service.current h.resource.fullName) := Store.read_of_takeFault hr.arrives _
  rw [policy, hrun, getPolicy_of_owning (Collection.owning_fullName _), hread]
  rfl

private theorem decode_of_getPolicy {w : World Store} {c : Option Credentials} {name : String}
    {version : Value} {q : Policy} (hq : (w.getPolicy c name version).2 = .ok q) :
    Policy.decode (w.service.current name) = .ok q := by
  cases howning : Collection.owning name with
  | error e =>
    rw [World.getPolicy, howning] at hq
    simp at hq
  | ok collection =>
    rw [getPolicy_of_owning howning] at hq
    obtain ⟨-, -, hread | ⟨e, hread⟩⟩ := w.service.read_cases name
    · rw [hread] at hq
      exact hq
    · rw [hread] at hq
      simp [Except.bind] at hq

/-- A policy that a read gives is what the document read as. -/
theorem decode_of_policy (h : Handle) {w : World Store} {given : Option Credentials}
    {version : Value} {q : Policy} (hq : (h.policy w given version).2 = .ok q) :
    Policy.decode (w.service.current h.resource.fullName) = .ok q := by
  obtain ⟨w', hservice, ⟨e, hrun⟩ | ⟨c, hrun⟩⟩ := h.withCredentials_cases w given fun w c =>
    w.getPolicy c h.resource.fullName version
  · rw [policy, hrun] at hq
    simp at hq
  · rw [policy, hrun] at hq
    exact hservice ▸ decode_of_getPolicy hq

end Handle

/-- Whether an operation of a session is a read of the policy of a resource. -/
def Session.Step.Reads (name : String) : Step → Prop
  | read h _ _ => h.resource.fullName = name
  | readNamed v _ _ => ∃ r, Resource.ofValue v = .ok r ∧ r.fullName = name
  | fetch _ name' _ => name' = name
  | _ => False

/-- A policy that was read is what the document read as. -/
theorem Session.Step.decode_of_reads {step : Step} {name : String} (h : step.Reads name)
    {w : World Store} {q : Policy} (hq : (step.perform w).2 = .ok (some q)) :
    Policy.decode (w.service.current name) = .ok q := by
  have hgiven : ∀ {result : World Store × Except Failure Policy},
      (Step.perform.policy result).2 = .ok (some q) → result.2 = .ok q := by
    intro result hresult
    obtain ⟨p, hp, heq⟩ := policy_eq_ok_iff.mp hresult
    rwa [Option.some.inj heq]
  cases step with
  | read handle given version =>
    obtain rfl := h
    exact handle.decode_of_policy (hgiven hq)
  | readNamed v given version =>
    obtain ⟨r, hr, rfl⟩ := h
    have hread : (Admin.getPolicy w v given version).2 = .ok q := hgiven hq
    rw [Admin.getPolicy, Admin.onName, hr] at hread
    exact Handle.decode_of_policy ⟨r, given⟩ hread
  | fetch credentials name' version =>
    obtain rfl := h
    exact Handle.decode_of_getPolicy (hgiven hq)
  | _ => exact h.elim

/-! ### In the course of a session -/

namespace Policy

/-- Whether a policy was made from another one by calls of a builder that do not set the tag. -/
def EditedFrom (p q : Policy) : Prop :=
  ∃ b calls, q.toBuilder = .ok b ∧ (∀ c ∈ calls, Builder.Call.etag? c = none) ∧
    p = (b.run calls).build

/-- An edited policy has the tag of the one it was made from. -/
theorem EditedFrom.etag_eq {p q : Policy} (h : p.EditedFrom q) (hq : q.bindings.Sound) :
    p.etag = q.etag := by
  obtain ⟨b, calls, hb, hcalls, rfl⟩ := h
  obtain rfl := Except.ok.inj ((toBuilder_of_sound hq).symm.trans hb)
  have hnone : calls.filterMap Builder.Call.etag? = [] := List.filterMap_eq_nil_iff.mpr hcalls
  have hetag := Builder.run_etag ⟨q.family, q.bindings, q.etag, q.version⟩ calls
  rwa [hnone] at hetag

/-- The tag that is read from a document that has one. -/
theorem etag_of_decode {document : Value} {q : Policy} (h : decode document = .ok q)
    {s : String} (hs : Store.etagOf document = .text s) : q.etag = .text s := by
  cases document with
  | map fields => exact (decode_map_eq_ok_iff.mp h).2.2.1.trans hs
  | _ => simp [Store.etagOf] at hs

end Policy

namespace Session

theorem restored_run (w : World Store) (steps : List Step) :
    Store.Restored ((run w steps).storedSince w) w.service (run w steps).service :=
  (leads_run w steps).restored

/-- What a session does after a part of it. -/
theorem restored_run_append (w : World Store) (before after : List Step) :
    Store.Restored ((run w (before ++ after)).storedSince (run w before)) (run w before).service
      (run w (before ++ after)).service := by
  rw [run_append]
  exact restored_run _ after

end Session

/-- **A policy that was read and edited** may replace the document exactly if that was not stored
since it was read. -/
theorem Policy.mayReplace_iff_not_stored {p q : Policy} {names : List String} {name : String}
    {s t : Store} (htagged : s.Tagged name) (hst : Store.Restored names s t)
    (hread : decode (s.current name) = .ok q) (hedited : p.EditedFrom q) :
    p.MayReplace (t.current name) ↔ name ∉ names := by
  have hetag : p.etag = Store.etagOf (s.current name) := by
    obtain ⟨etag, htag, -⟩ := htagged
    rw [hedited.etag_eq (decode_sound hread), etag_of_decode hread htag, htag]
  have hnull : Store.etagOf (s.current name) ≠ .null := by
    obtain ⟨etag, htag, -⟩ := htagged
    simp [htag]
  rw [MayReplace, hetag, or_iff_right hnull, eq_comm, htagged.etag_eq_iff hst]

namespace Handle

/-- What a replacement comes to in the course of a session: `start` is the world at the start of the
session, `steps` is what was done before the replacement, and `met` is the store that it meets. -/
structure Replacement (h : Handle) (p : Policy) (start : World Store) (steps : List Session.Step)
    (met : Store) (result : World Store × Except Failure Policy) : Prop where
  /-- The policy is stored exactly if it has no tag, or that of the document. -/
  stored_iff : p.StoredIn h.resource.fullName met result.1.service ↔
    p.MayReplace (met.current h.resource.fullName)
  /-- Else it is refused, and all is as the write met it. -/
  refused : ¬ p.StoredIn h.resource.fullName met result.1.service →
    result.2 = .error Store.conflict ∧ result.1.service = met.touch h.resource.fullName
  /-- What is stored is given, under a new tag, and read until the document is stored again. -/
  given : p.StoredIn h.resource.fullName met result.1.service →
    ∃ q, result.2 = .ok q ∧ q.bindings.same p.bindings = true ∧ q.version = p.version ∧
      (∀ other, start.service.Tagged other → Store.etagOf (met.current other) ≠ q.etag ∧
        ∀ before after, steps = before ++ after →
          Store.etagOf ((Session.run start before).service.current other) ≠ q.etag) ∧
      ∀ later, h.resource.fullName ∉ (Session.run result.1 later).storedSince result.1 →
        (∀ step : Session.Step, step.Reads h.resource.fullName → ∀ q',
          (step.perform (Session.run result.1 later)).2 = .ok (some q') → q' = q) ∧
        ∀ (h' : Handle) given version, h'.resource.fullName = h.resource.fullName →
          h'.Reaches (Session.run result.1 later) given →
          (h'.policy (Session.run result.1 later) given version).2 = .ok q
  /-- A policy that was read in the session and edited is refused exactly if the document was stored
  since, by the session or by others. -/
  stale : ∀ before (step : Session.Step) after q, steps = before ++ step :: after →
    step.Reads h.resource.fullName →
    (step.perform (Session.run start before)).2 = .ok (some q) → p.EditedFrom q →
    (result.2 = .error Store.conflict ↔ h.resource.fullName ∈
      (Session.run start steps).storedSince (Session.run start before) ++
        (Session.run start steps).service.arriving)

/-- What is stored is read until the document is stored again. -/
private theorem decode_of_not_stored {name : String} {w : World Store} {q : Policy}
    (hread : Policy.decode (w.service.current name) = .ok q) {later : List Session.Step}
    (hlater : name ∉ (Session.run w later).storedSince w) :
    Policy.decode ((Session.run w later).service.current name) = .ok q := by
  rw [(Session.restored_run w later).kept name hlater, hread]

/-- A store with a document stored in it is not the one that was met. -/
private theorem not_storedIn_touch (p : Policy) (name : String) (met : Store) :
    ¬ p.StoredIn name met (met.touch name) := by
  rintro ⟨fields, -, heq⟩
  have hissued := congrArg Store.issued heq
  simp [Store.accept] at hissued

/-- What was stored between a part of a session and the processing of a write after it. -/
private theorem restored_met {h : Handle} {given : Option Credentials} {start : World Store}
    {steps before after : List Session.Step} {met : Store}
    (hd : h.Delivers (Session.run start steps) given met) (hsteps : steps = before ++ after) :
    Store.Restored ((Session.run start steps).storedSince (Session.run start before) ++
      (Session.run start steps).service.arriving) (Session.run start before).service met := by
  subst hsteps
  exact (Session.restored_run_append start before after).trans (.of_arrived hd.arrives)

/-- A policy that was read in a session and edited may replace the document exactly if that was not
stored since. -/
private theorem mayReplace_iff_of_reads {h : Handle} {given : Option Credentials} {p q : Policy}
    {start : World Store} (htagged : start.service.Tagged h.resource.fullName)
    {steps before after : List Session.Step} {met : Store}
    (hd : h.Delivers (Session.run start steps) given met) {step : Session.Step}
    (hsteps : steps = before ++ step :: after) (hstep : step.Reads h.resource.fullName)
    (hq : (step.perform (Session.run start before)).2 = .ok (some q)) (hedited : p.EditedFrom q) :
    p.MayReplace (met.current h.resource.fullName) ↔
      h.resource.fullName ∉ (Session.run start steps).storedSince (Session.run start before) ++
        (Session.run start steps).service.arriving :=
  Policy.mayReplace_iff_not_stored (htagged.restored (Session.restored_run start before))
    (restored_met hd hsteps) (Session.Step.decode_of_reads hstep hq) hedited

/-- **Replacements in the course of a session.** Let the document of a resource carry a tag that is
not issued again, at the start of a session. A replacement that arrives is let through or refused by
its tag; the tag of a policy that was read in the session lets it through exactly if the document
was not stored since. -/
theorem replacement_of_delivers {h : Handle} {given : Option Credentials} {p : Policy} (hp : p.Sent)
    (hetag : p.etag = .null ∨ ∃ s, p.etag = .text s) {start : World Store}
    (hanswer : start.service.writeAnswer = none)
    (htagged : start.service.Tagged h.resource.fullName) (steps : List Session.Step) {met : Store}
    (hd : h.Delivers (Session.run start steps) given met) :
    h.Replacement p start steps met (h.replacePolicy (Session.run start steps) given p) := by
  have hmet := restored_met hd (List.nil_append steps).symm
  have hnone : met.writeAnswer = none := hmet.writeAnswer.trans hanswer
  by_cases hmay : p.MayReplace (met.current h.resource.fullName)
  · obtain ⟨hstored, bs, hsame, houtcome, hread⟩ :=
      replacePolicy_of_mayReplace hd hnone hp hetag hmay
    have hfresh : ∀ other, start.service.Tagged other →
        Store.etagOf (met.current other) ≠ tag (met.issued + 1) ∧
          ∀ before after, steps = before ++ after →
            Store.etagOf ((Session.run start before).service.current other) ≠
              tag (met.issued + 1) := by
      intro other hother
      refine ⟨(hother.restored hmet).ne_next (.refl met), fun before after hsteps => ?_⟩
      exact (hother.restored (Session.restored_run start before)).ne_next (restored_met hd hsteps)
    refine ⟨iff_of_true hstored hmay, fun hno => absurd hstored hno, fun _ =>
      ⟨_, houtcome, hsame, rfl, hfresh, ?_⟩, ?_⟩
    · intro later hlater
      have hlast := decode_of_not_stored hread hlater
      refine ⟨fun step hstep q' hq' => ?_, fun h' given' version hname hr => ?_⟩
      · have hread' := Session.Step.decode_of_reads hstep hq'
        exact Except.ok.inj (hread'.symm.trans hlast)
      · rw [policy_of_reaches hr, hname, hlast]
    · intro before step after q hsteps hstep hq hedited
      have hiff := mayReplace_iff_of_reads htagged hd hsteps hstep hq hedited
      exact iff_of_false (by simp [houtcome]) (hiff.mp hmay)
  · obtain ⟨hservice, houtcome⟩ := replacePolicy_of_not_mayReplace hd hp hetag hmay
    have hnot := hservice ▸ not_storedIn_touch p h.resource.fullName met
    refine ⟨iff_of_false hnot hmay, fun _ => ⟨houtcome, hservice⟩, fun hstored =>
      absurd hstored hnot, ?_⟩
    intro before step after q hsteps hstep hq hedited
    have hiff := mayReplace_iff_of_reads htagged hd hsteps hstep hq hedited
    exact iff_of_true houtcome (not_not.mp fun hno => hmay (hiff.mpr hno))

/-- A policy that is read, edited and to be stored, while someone else grants a role: the
replacement is refused. -/
theorem replacement_of_delivers_stale :
    let h : Handle := { resource := ⟨.projects, .text "p"⟩, stored := some "me" }
    let start : World Store := { service := {
      documents := [("projects/p", .ofFields [("etag", .text "a")])]
      edits := [("projects/p", .ofFields [("role", .text "roles/editor"),
        ("members", .list [.text "user:bob@example.com"])])] } }
    let steps : List Session.Step := [.read h none .null]
    let p : Policy :=
      ⟨.roles, [(Role.viewer, [⟨.user, .text "ann@example.com"⟩])], .text "a", .null⟩
    let result := h.replacePolicy (Session.run start steps) none p
    ∃ met, h.Delivers (Session.run start steps) none met ∧
      h.Replacement p start steps met result ∧ result.2 = .error Store.conflict := by
  intro h start steps p result
  have hsent : p.Sent := by
    refine ⟨?_, ?_, .inl rfl⟩
    · have hrun : (Builder.run {} [.addIdentity (some Role.viewer)
          [some ⟨.user, .text "ann@example.com"⟩]]).bindings.Sound :=
        Builder.run_sound Bindings.Sound.nil (by simp [Builder.Call.Removes])
      exact hrun
    · simp [p, Bindings.Canonical, Role.Full, Role.viewer, Role.fullName, Role.collection,
        Identity.Canonical, IdentityKind.isWildcard]
  have htagged : start.service.Tagged h.resource.fullName := by
    refine ⟨"a", rfl, fun n _ heq => ?_⟩
    have htext : ("a" : String) = "etag-" ++ toString n := by simpa [tag] using heq
    simpa using congrArg (fun s => s.toList.head?) htext
  have hd : h.Delivers (Session.run start steps) none
      (Session.run start steps).service.arrive.1 := by
    refine ⟨⟨"me", rfl⟩, Prod.ext rfl ?_⟩
    simp only [start, steps, h]
    rfl
  have hrep := replacement_of_delivers hsent (.inr ⟨"a", rfl⟩) rfl htagged steps hd
  have hread : (Session.Step.perform (Session.run start []) (.read h none .null)).2 =
      .ok (some ⟨.roles, [], .text "a", .null⟩) := by
    simp only [start, h]
    rfl
  refine ⟨_, hd, hrep, (hrep.stale [] _ [] _ rfl rfl hread ?_).mpr ?_⟩
  · exact ⟨_, [.addIdentity (some Role.viewer) [some ⟨.user, .text "ann@example.com"⟩]], rfl,
      by simp [Builder.Call.etag?], rfl⟩
  · have harriving : (Session.run start steps).service.arriving = ["projects/p"] := by
      simp only [start, steps, h]
      rfl
    rw [harriving]
    exact List.mem_append_right _ (List.mem_singleton_self "projects/p")

end Handle

end AccessPolicy
