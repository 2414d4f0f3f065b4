import AccessPolicy.Proofs.Service.Replacing
import AccessPolicy.Proofs.Service.Retrying

/-!
# Conditions are never written over

A policy has no place for the condition of a binding, and a policy is written as a whole. So an
operation that changes the members of a role must not store anything over a document that lists a
binding with a condition. It does not: such a document is never read as a policy, and a document
that became one after it was read has another tag by then, so that the write is refused.

* `Service.Each`: what holds of each of some requests that are processed in turn;
* `Policy.IsConditional`: documents that list a binding with a condition;
* `Edit.Drafted.not_isConditional_of_accepts`: what a write of an edit is stored over;
* `Session.sparesConditions_of_amends`: operations that change the members of a role, in the course
  of a session.
-/

namespace AccessPolicy

open Store (View)

/-! ### Each of some requests -/

namespace Service

variable {σ : Type} [Service σ] {P Q : σ → Request → List Request → Prop} {s : σ}
  {rs rs' : List Request}

/-- What holds of each of some requests that are processed in turn. It is said of the service that a
request meets, of the request, and of the requests after it. -/
def Each (P : σ → Request → List Request → Prop) (s : σ) (rs : List Request) : Prop :=
  ∀ before r after, rs = before ++ r :: after → P (process s before) r after

theorem each_nil : Each P s [] := by
  intro before r after h
  simp at h

theorem each_cons {r : Request} :
    Each P s (r :: rs) ↔ P s r rs ∧ Each P (Service.answer s r).1 rs := by
  constructor
  · intro h
    exact ⟨h [] r rs rfl, fun before r' after hrs => h (r :: before) r' after (by rw [hrs]; rfl)⟩
  · rintro ⟨hfirst, hrest⟩ before r' after hrs
    rcases List.cons_eq_append_iff.mp hrs with ⟨rfl, hcons⟩ | ⟨before', rfl, hrs'⟩
    · obtain ⟨rfl, rfl⟩ := List.cons.inj hcons
      exact hfirst
    · exact hrest before' r' after hrs'

theorem Each.append (h : Each (fun s r after => P s r (after ++ rs')) s rs)
    (h' : Each P (process s rs) rs') : Each P s (rs ++ rs') := by
  induction rs generalizing s with
  | nil => exact h'
  | cons r rest ih =>
    rw [each_cons] at h
    exact each_cons.mpr ⟨h.1, ih h.2 h'⟩

theorem Each.imp (h : Each P s rs) (hPQ : ∀ s r after, P s r after → Q s r after) : Each Q s rs :=
  fun before r after hrs => hPQ _ _ _ (h before r after hrs)

end Service

/-! ### Documents with conditions -/

/-- Whether a document lists a binding with a condition. -/
def Policy.IsConditional (document : Value) : Prop :=
  ∃ fields items entry, document = .map fields ∧ Value.field "bindings" fields = .list items ∧
    .map entry ∈ items ∧ Value.field? "condition" entry ≠ none

namespace Policy

private theorem decodeBinding_of_condition {entry : List (Value × Value)}
    (h : Value.field? "condition" entry ≠ none) (bs : Bindings) :
    decodeBinding bs (.map entry) =
      .error (.rejected (.conditionalBinding (Value.field "role" entry))) := by
  simp [decodeBinding, Option.isSome_iff_ne_none.mpr h]

private theorem decodeBindings_ne_ok {items : List Value} {entry : List (Value × Value)}
    (hentry : .map entry ∈ items) (h : Value.field? "condition" entry ≠ none) (acc bs : Bindings) :
    decodeBindings items acc ≠ .ok bs := by
  induction items generalizing acc with
  | nil => simp at hentry
  | cons v rest ih =>
    rw [decodeBindings]
    rcases List.mem_cons.mp hentry with rfl | hrest
    · simp [decodeBinding_of_condition h]
    · cases decodeBinding acc v with
      | error e => simp
      | ok acc' => exact ih hrest acc'

/-- **Conditions are refused.** What is read as a policy lists no binding with a condition. -/
theorem not_isConditional_of_decode {document : Value} {p : Policy}
    (h : decode document = .ok p) : ¬ IsConditional document := by
  rintro ⟨fields, items, entry, rfl, hitems, hentry, hcondition⟩
  obtain ⟨⟨items', hlist, hdecode⟩, -⟩ := decode_map_eq_ok_iff.mp h
  rw [hitems, listOf_list] at hlist
  obtain rfl := Except.ok.inj hlist
  exact decodeBindings_ne_ok hentry hcondition _ _ hdecode

end Policy

/-! ### Changes of members keep the tag -/

/-- Whether a change keeps the tag. -/
def Edit.KeepsTag (change : Change) : Prop := ∀ b b', change b = .ok b' → b'.etag = b.etag

namespace Handle

theorem keepsTag_granting (r : Role) (ids : List Identity) : Edit.KeepsTag (granting r ids) := by
  intro b b' h
  obtain ⟨_, _, -, -, -, -, -, rfl⟩ := Builder.addIdentity_eq_ok_iff.mp h
  rfl

theorem keepsTag_revoking (r : Role) (ids : List Identity) : Edit.KeepsTag (revoking r ids) := by
  intro b b' h
  obtain ⟨bs, hbs⟩ := b.exists_apply_eq (.removeIdentity (some r) (ids.map some))
  unfold revoking at h
  split at h
  · next hremove =>
    obtain rfl := Except.ok.inj h
    rw [Builder.apply, hremove] at hbs
    have hetag := congrArg Builder.etag hbs
    exact hetag
  · simp at h

end Handle

theorem Edit.KeepsTag.etag_eq {change : Change} (h : KeepsTag change) {current updated : Policy}
    (hsound : current.bindings.Sound) (hchanged : changed change current = .ok updated) :
    updated.etag = current.etag := by
  rw [changed, Policy.toBuilder_of_sound hsound] at hchanged
  dsimp only at hchanged
  split at hchanged
  · simp at hchanged
  · next b hb =>
    obtain rfl := Except.ok.inj hchanged
    exact h _ b hb

/-! ### Attempts -/

/-- Whether a request that is processed stores nothing over a document with a condition; and ends
the operation if its reply is such a document. -/
structure Request.Spares {α : Type} (outcome : Except Failure α) (s : Store) (r : Request)
    (after : List Request) : Prop where
  /-- A write that is stored meets a document without conditions. -/
  stored : s.accepts r = true → ∀ met, s.arrive = (met, .ok ()) →
    ¬ Policy.IsConditional (met.current r.resource)
  /-- A reply with a condition cannot be read. Nothing is requested after it, and the operation
  fails. -/
  reply : ∀ document, (Service.answer s r).2 = .ok document → Policy.IsConditional document →
    after = [] ∧ ∃ e, Policy.decode document = .error e ∧ outcome = .error e

/-- Whether a request that is processed stores nothing, and its reply lists no binding with a
condition. -/
structure Request.IsQuiet (s : Store) (r : Request) : Prop where
  /-- Nothing is stored. -/
  unstored : s.accepts r = false
  /-- The reply has no condition. -/
  reply : ∀ document, (Service.answer s r).2 = .ok document → ¬ Policy.IsConditional document

theorem Request.IsQuiet.spares {s : Store} {r : Request} (h : r.IsQuiet s) {α : Type}
    (outcome : Except Failure α) (after : List Request) : r.Spares outcome s after where
  stored haccepts := by simp [h.unstored] at haccepts
  reply document hreply hconditional := absurd hconditional (h.reply document hreply)

namespace Edit

variable {call : Call} {s t u : Store}

/-- The reply to a read is the document. -/
theorem Fetched.decode_current {current : Policy} (h : Fetched call s t current) :
    Policy.decode (s.current call.name) = .ok current := by
  obtain ⟨document, hread, hdecode⟩ := h
  have hreply : (s.read call.name).2 = .ok document := congrArg Prod.snd hread
  obtain ⟨-, -, hcurrent | ⟨e, hfailed⟩⟩ := s.read_cases call.name
  · obtain rfl := Except.ok.inj (hreply.symm.trans hcurrent)
    exact hdecode
  · simp [hreply] at hfailed

/-- A read stores nothing. -/
theorem Fetched.restored {current : Policy} (h : Fetched call s t current) :
    Store.Restored [] s t :=
  h.answer_eq ▸ s.restored_answer call.readRequest

/-- **What a write of an edit is stored over.** It carries the tag that was read, so it is stored
only over the document that was read, which lists no binding with a condition. -/
theorem Drafted.not_isConditional_of_accepts {updated : Policy} {fields : List (Value × Value)}
    (h : Drafted call s t updated fields) (hkeeps : KeepsTag call.change)
    (htagged : s.Tagged call.name) (haccepts : t.accepts (call.writeRequest fields) = true)
    {met : Store} (harrive : t.arrive = (met, .ok ())) :
    ¬ Policy.IsConditional (met.current call.name) := by
  obtain ⟨current, hfetched, hchanged, -⟩ := h.made
  have hread := hfetched.decode_current
  have hmet := hfetched.restored.trans (.of_arrived harrive)
  have hsame : Store.etagOf (met.current call.name) = Store.etagOf (s.current call.name) := by
    obtain ⟨etag, htag, -⟩ := htagged
    have hupdated : updated.etag = .text etag :=
      (hkeeps.etag_eq (Policy.decode_sound hread) hchanged).trans (Policy.etag_of_decode hread htag)
    rw [htag]
    refine Store.eq_text_of_carriesOther
      ((renders_of_fieldsOf h.encoded).field?_etag_of_text hupdated) ?_
    simpa [Store.accepts, Call.writeRequest, harrive] using haccepts
  -- the tag is the same, so nobody stored the document meanwhile
  rw [hmet.kept _ ((htagged.etag_eq_iff hmet).mp hsame)]
  exact Policy.not_isConditional_of_decode hread

/-- A read that fails. -/
private theorem Call.isQuiet_of_unread (call : Call) {e : Failure}
    (hread : Service.answer s call.readRequest = (t, .error e)) : call.readRequest.IsQuiet s := by
  refine ⟨call.accepts_readRequest s, fun document hreply => ?_⟩
  simp [hread] at hreply

/-- A read whose reply is read as a policy. -/
private theorem Fetched.isQuiet {current : Policy} (h : Fetched call s t current) :
    call.readRequest.IsQuiet s := by
  obtain ⟨document, hread, hdecode⟩ := h
  refine ⟨call.accepts_readRequest s, fun document' hreply => ?_⟩
  obtain rfl := Except.ok.inj ((congrArg Prod.snd hread).symm.trans hreply)
  exact Policy.not_isConditional_of_decode hdecode

/-- A write of an edit, whose reply is read last. -/
private theorem Drafted.spares {updated : Policy} {fields : List (Value × Value)}
    {reply : Except Failure Value} (h : Drafted call s t updated fields)
    (hkeeps : KeepsTag call.change) (htagged : s.Tagged call.name)
    (hwrite : Service.answer t (call.writeRequest fields) = (u, reply)) :
    (call.writeRequest fields).Spares (reply.bind Policy.decode) t [] := by
  refine ⟨fun haccepts met harrive =>
    h.not_isConditional_of_accepts hkeeps htagged haccepts harrive, fun document hreply hcond => ?_⟩
  obtain rfl : reply = .ok document := (congrArg Prod.snd hwrite).symm.trans hreply
  cases hdecode : Policy.decode document with
  | error e => exact ⟨rfl, e, rfl, by simp [Except.bind, hdecode]⟩
  | ok p => exact absurd hcond (Policy.not_isConditional_of_decode hdecode)

/-- **An attempt** stores nothing over a condition, and ends at the first one that it reads. -/
theorem Attempted.each_spares {events : List Event} {outcome : Except Failure Policy}
    (h : Attempted call s events t outcome) (hkeeps : KeepsTag call.change)
    (htagged : s.Tagged call.name) :
    Service.Each (Request.Spares outcome) s (events.filterMap Event.request?) := by
  cases h with
  | unread hread =>
    exact Service.each_cons.mpr ⟨(call.isQuiet_of_unread hread).spares _ _, Service.each_nil⟩
  | @undecoded _ document e hread hdecode =>
    refine Service.each_cons.mpr ⟨⟨by simp [call.accepts_readRequest], ?_⟩, Service.each_nil⟩
    intro document' hreply _
    obtain rfl := Except.ok.inj ((congrArg Prod.snd hread).symm.trans hreply)
    exact ⟨rfl, e, hdecode, rfl⟩
  | unmade hfetched | unchanged hfetched | unwritable hfetched =>
    exact Service.each_cons.mpr ⟨hfetched.isQuiet.spares _ _, Service.each_nil⟩
  | sent hdrafted hwrite =>
    obtain ⟨current, hfetched, -⟩ := hdrafted.made
    refine Service.each_cons.mpr
      ⟨hfetched.isQuiet.spares _ _, Service.each_cons.mpr ⟨?_, Service.each_nil⟩⟩
    rw [hdrafted.answer_eq]
    exact hdrafted.spares hkeeps htagged hwrite

/-- A write that is refused. -/
private theorem Call.isQuiet_writeRequest {fields : List (Value × Value)} {e : Failure}
    (hwrite : Service.answer t (call.writeRequest fields) = (u, .error e)) :
    (call.writeRequest fields).IsQuiet t := by
  have hreply : (t.answer (call.writeRequest fields)).2 = .error e := congrArg Prod.snd hwrite
  refine ⟨?_, fun document hok => ?_⟩
  · rw [← Bool.not_eq_true, t.accepts_write_iff rfl, hreply]
    simp
  · simp [hwrite] at hok

/-- An attempt that is refused stores nothing, and reads no condition. -/
private theorem Refused.each_isQuiet {events : List Event} (h : Refused call s events t) :
    Service.Each (fun s r _ => r.IsQuiet s) s (events.filterMap Event.request?) := by
  cases h with
  | read _ hread => exact Service.each_cons.mpr ⟨call.isQuiet_of_unread hread, Service.each_nil⟩
  | write _ hdrafted hwrite =>
    obtain ⟨current, hfetched, -⟩ := hdrafted.made
    refine Service.each_cons.mpr ⟨hfetched.isQuiet, Service.each_cons.mpr ⟨?_, Service.each_nil⟩⟩
    rw [hdrafted.answer_eq]
    exact Call.isQuiet_writeRequest hwrite

/-- **Attempts that are refused** store nothing, and read no condition. -/
theorem Retried.each_isQuiet {n : Nat} {events : List Event} (h : Retried call s n events t) :
    Service.Each (fun s r _ => r.IsQuiet s) s (events.filterMap Event.request?) := by
  induction h with
  | none => exact Service.each_nil
  | again hbefore hrefused ih =>
    rw [requests_pause]
    exact ih.append (hbefore.process_eq.symm ▸ hrefused.each_isQuiet)

theorem Retried.restored {n : Nat} {events : List Event} (h : Retried call s n events t) :
    Store.Restored (s.storedBy (events.filterMap Event.request?)) s t :=
  h.process_eq ▸ s.restored_process _

end Edit

/-! ### Operations -/

namespace World

/-- An operation spares conditions: each of its requests does. -/
structure SparesConditions {α : Type} (w : World Store) (result : World Store × Except Failure α) :
    Prop where
  /-- It makes requests, and nothing else. -/
  leads : w.Leads result.1
  /-- Each of them spares conditions. -/
  each : Service.Each (Request.Spares result.2) w.service (result.1.requestsSince w)

namespace SparesConditions

variable {α : Type} {w : World Store}

/-- An operation that fails at once. -/
theorem failed (e : Failure) : w.SparesConditions (α := α) (w, .error e) := by
  refine ⟨.refl w, ?_⟩
  rw [requestsSince, List.drop_length]
  exact Service.each_nil

/-- What is noted at first is no request. -/
theorem after {events : List Event} (hevents : events.filterMap Event.request? = [])
    {result : World Store × Except Failure α} (h : (w.note events).SparesConditions result) :
    w.SparesConditions result := by
  obtain ⟨more, htrace, hservice⟩ := h.leads
  refine ⟨(w.leads_note events hevents).trans h.leads, ?_⟩
  have hrequests : result.1.requestsSince w = result.1.requestsSince (w.note events) := by
    have htrace' : result.1.trace = w.trace ++ (events ++ more) := by
      rw [htrace, ← List.append_assoc]
      rfl
    rw [requestsSince_eq htrace, requestsSince_eq htrace', List.filterMap_append, hevents,
      List.nil_append]
  exact hrequests ▸ h.each

/-- Work that is done with the credentials found. -/
theorem withCredentials {h : Handle} {given : Option Credentials}
    {work : World Store → Option Credentials → World Store × Except Failure α}
    (hwork : ∀ (u : World Store) c, u.service = w.service → u.SparesConditions (work u c)) :
    w.SparesConditions (h.withCredentials w given work) := by
  obtain ⟨events, hnoted, hnone⟩ := h.credentials_noted w given
  unfold Handle.withCredentials
  generalize h.credentials w given = found at hnoted
  obtain ⟨u, e | c⟩ := found
  · obtain rfl : u = w.note events := hnoted
    exact .after hnone (.failed e)
  · obtain rfl : u = w.note events := hnoted
    exact .after hnone (hwork _ _ rfl)

end SparesConditions

open Edit in
/-- **An edit** that keeps the tag spares conditions, if the tag of the document is not issued
again. -/
theorem sparesConditions_modify (w : World Store) (credentials : Option Credentials) {name : String}
    (htagged : w.service.Tagged name) {change : Change}
    (hchange : ∀ b, Builder.Calling b (change b)) (hkeeps : KeepsTag change) :
    w.SparesConditions (w.modify credentials name change) := by
  cases howning : Collection.owning name with
  | error e =>
    rw [modify, howning]
    exact .failed e
  | ok collection =>
    refine ⟨(w.performs_modify credentials name change).leads, ?_⟩
    obtain ⟨k, hhistory⟩ := w.modify_history credentials howning hchange
    obtain ⟨before, s, last, hbefore, hlast, htrace⟩ := hhistory.attempts
    rw [requestsSince_eq (htrace.trans (List.append_assoc ..)), List.filterMap_append]
    refine .append (hbefore.each_isQuiet.imp fun _ _ _ hquiet => hquiet.spares _ _) ?_
    rw [hbefore.process_eq]
    exact hlast.each_spares hkeeps (htagged.restored hbefore.restored)

end World

namespace Handle

private theorem sparesConditions_changeBinding (h : Handle) (w : World Store)
    (given : Option Credentials) (htagged : w.service.Tagged h.resource.fullName)
    (role : RoleArgument) (members : List MemberArgument)
    {change : Role → List Identity → Change}
    (hchange : ∀ r ids b, Builder.Calling b (change r ids b))
    (hkeeps : ∀ r ids, Edit.KeepsTag (change r ids)) :
    w.SparesConditions (h.changeBinding w given role members change) := by
  unfold changeBinding
  split
  · exact .failed _
  · split
    · exact .failed _
    · split
      · exact .failed _
      · exact .withCredentials fun u c hservice =>
          u.sparesConditions_modify c (hservice ▸ htagged) (hchange _ _) (hkeeps _ _)

theorem sparesConditions_addBinding (h : Handle) (w : World Store) (given : Option Credentials)
    (htagged : w.service.Tagged h.resource.fullName) (role : RoleArgument)
    (members : List MemberArgument) :
    w.SparesConditions (h.addBinding w given role members) :=
  h.sparesConditions_changeBinding w given htagged role members calling_granting keepsTag_granting

theorem sparesConditions_removeBinding (h : Handle) (w : World Store) (given : Option Credentials)
    (htagged : w.service.Tagged h.resource.fullName) (role : RoleArgument)
    (members : List MemberArgument) :
    w.SparesConditions (h.removeBinding w given role members) :=
  h.sparesConditions_changeBinding w given htagged role members calling_revoking keepsTag_revoking

end Handle

/-! ### In the course of a session -/

namespace WriteCall

/-- Whether an operation changes the members of a role. -/
def Amends : WriteCall → Prop
  | replace _ => False
  | add .. | remove .. => True

theorem Amends.sparesConditions_run {c : WriteCall} (hc : c.Amends) (h : Handle) (w : World Store)
    (given : Option Credentials) (htagged : w.service.Tagged h.resource.fullName) :
    w.SparesConditions (c.run h w given) := by
  cases c with
  | replace p => exact hc.elim
  | add role members => exact h.sparesConditions_addBinding w given htagged role members
  | remove role members => exact h.sparesConditions_removeBinding w given htagged role members

theorem Amends.sparesConditions_runNamed {c : WriteCall} (hc : c.Amends) {v : Value} {r : Resource}
    (hr : Resource.ofValue v = .ok r) (w : World Store) (given : Option Credentials)
    (htagged : w.service.Tagged r.fullName) : w.SparesConditions (c.runNamed w v given) := by
  have hrun := hc.sparesConditions_run ⟨r, given⟩ w none htagged
  cases c with
  | replace p => exact hc.elim
  | add role members =>
    show w.SparesConditions (Admin.addBinding w v given role members)
    unfold Admin.addBinding Admin.onName
    rw [hr]
    split
    · exact .failed _
    · exact hrun
  | remove role members =>
    show w.SparesConditions (Admin.removeBinding w v given role members)
    unfold Admin.removeBinding Admin.onName
    rw [hr]
    split
    · exact .failed _
    · exact hrun

end WriteCall

namespace Session

/-- Whether an operation of a session changes the members of a role on the resource of a full
name. -/
def Step.Amends (name : String) : Step → Prop
  | write h _ c => c.Amends ∧ h.resource.fullName = name
  | writeNamed v _ c => c.Amends ∧ ∃ r, Resource.ofValue v = .ok r ∧ r.fullName = name
  | _ => False

private theorem sparesConditions_policy {w : World Store}
    {result : World Store × Except Failure Policy} (h : w.SparesConditions result) :
    w.SparesConditions (Step.perform.policy result) := by
  refine ⟨h.leads, h.each.imp fun s r after hspares => ⟨hspares.stored, ?_⟩⟩
  intro document hreply hconditional
  obtain ⟨hlast, e, hdecode, hfailed⟩ := hspares.reply document hreply hconditional
  exact ⟨hlast, e, hdecode, by simp [Step.perform.policy, Except.map, hfailed]⟩

/-- **Conditions are never written over.** Let the document of a resource carry a tag that is not
issued again, at the start of a session. An operation of the session that changes the members of a
role, whatever befalls its requests and whatever others change meanwhile, stores nothing over a
document that lists a binding with a condition when the write is processed. Where such a document is
the reply to a request, the operation fails as reading the document does, and requests nothing
else. -/
theorem sparesConditions_of_amends {start : World Store} {name : String}
    (htagged : start.service.Tagged name) (steps : List Step) {step : Step}
    (hstep : step.Amends name) :
    (run start steps).SparesConditions (step.perform (run start steps)) := by
  have htagged' := htagged.restored (restored_run start steps)
  cases step with
  | write h given c =>
    obtain ⟨hc, rfl⟩ := hstep
    exact sparesConditions_policy (hc.sparesConditions_run h _ given htagged')
  | writeNamed v given c =>
    obtain ⟨hc, r, hr, rfl⟩ := hstep
    exact sparesConditions_policy (hc.sparesConditions_runNamed hr _ given htagged')
  | _ => exact hstep.elim

/-- A grant, while someone else adds a binding with a condition: the write is refused, and the
second read is the last request. -/
theorem sparesConditions_of_amends_late_condition :
    let start : World Store := { service := {
      documents := [("projects/p", .ofFields [("etag", .text "a")])]
      edits := [("projects/p", .ofFields [("role", .text "roles/editor"),
        ("members", .list [.text "user:bob@example.com"]),
        ("condition", .ofFields [("expression", .text "true")])])] } }
    let step : Step := .write { resource := ⟨.projects, .text "p"⟩, stored := some "me" } none
      (.add (.named (.text "viewer")) [.member (.text "user:ann@example.com")])
    let after := step.perform (run start [])
    start.service.Tagged "projects/p" ∧ step.Amends "projects/p" ∧
      (run start []).SparesConditions after ∧
      (after.1.requestsSince start).map (·.action.method) =
        ["getIamPolicy", "setIamPolicy", "getIamPolicy"] ∧
      after.2.toOption = none ∧ Policy.IsConditional (after.1.service.current "projects/p") := by
  intro start step after
  have htagged : start.service.Tagged "projects/p" := by
    refine ⟨"a", rfl, fun n _ heq => ?_⟩
    have htext : ("a" : String) = "etag-" ++ toString n := by simpa [View.tag] using heq
    simpa using congrArg (fun s => s.toList.head?) htext
  have hstep : step.Amends "projects/p" := ⟨trivial, rfl⟩
  refine ⟨htagged, hstep, sparesConditions_of_amends htagged [] hstep, by with_unfolding_all rfl,
    by with_unfolding_all rfl, ?_⟩
  have hcurrent : after.1.service.current "projects/p" = .ofFields [("etag", .text "etag-1"),
      ("bindings", .list [.ofFields [("role", .text "roles/editor"),
        ("members", .list [.text "user:bob@example.com"]),
        ("condition", .ofFields [("expression", .text "true")])]])] := by
    with_unfolding_all rfl
  exact ⟨_, _, _, hcurrent, rfl, List.mem_singleton_self _, by simp [Value.field?]⟩

end Session

end AccessPolicy
