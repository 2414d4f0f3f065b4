import AccessPolicy.Proofs.Service.Failing

/-!
# Sessions

A session is a list of operations, done one after the other on one service. Whatever an operation
does to the service, it does by requests, and these are in the trace (`World.Leads`). Every policy
that an operation gives was read from a document that the service sent. Both hold on any service.

* `Session.Step`, `Session.run`: operations as data, and what a list of them does;
* `Session.Step.performs`: an operation makes requests, and the policy that it gives was read;
* `Session.leads_run`: a session makes requests, and nothing else.
-/

namespace AccessPolicy

/-! ### Requests in a trace -/

/-- The request that was sent, if an event is one. -/
def Event.request? : Event → Option Request
  | .request r => some r
  | _ => none

/-- Whether an event is a line in the log or a wait. -/
def Event.IsNote : Event → Prop
  | .log .. | .wait _ => True
  | .request _ | .defaultCredentials => False

theorem Event.filterMap_request?_of_isNote {events : List Event} (h : ∀ e ∈ events, e.IsNote) :
    events.filterMap Event.request? = [] :=
  List.filterMap_eq_nil_iff.mpr fun e he => by
    cases e with
    | request r => exact (h _ he).elim
    | _ => rfl

variable {σ : Type} [Service σ]

/-- The service after it processed some requests in turn. -/
def Service.process (s : σ) (requests : List Request) : σ :=
  requests.foldl (fun s r => (Service.answer s r).1) s

theorem Service.process_append (s : σ) (rs rs' : List Request) :
    Service.process s (rs ++ rs') = Service.process (Service.process s rs) rs' :=
  List.foldl_append

namespace World

omit [Service σ] in
/-- The requests made since an earlier world. -/
def requestsSince (w earlier : World σ) : List Request :=
  (w.trace.drop earlier.trace.length).filterMap Event.request?

omit [Service σ] in
theorem requestsSince_eq {w u : World σ} {events : List Event}
    (h : u.trace = w.trace ++ events) : u.requestsSince w = events.filterMap Event.request? := by
  rw [requestsSince, h, List.drop_left]

/-- A world comes after another one by requests, other events aside. -/
def Leads (w w' : World σ) : Prop :=
  ∃ events, w'.trace = w.trace ++ events ∧
    w'.service = Service.process w.service (events.filterMap Event.request?)

namespace Leads

variable {w u v : World σ}

theorem refl (w : World σ) : w.Leads w := ⟨[], by simp, rfl⟩

theorem trans (h : w.Leads u) (h' : u.Leads v) : w.Leads v := by
  obtain ⟨es, htrace, hservice⟩ := h
  obtain ⟨es', htrace', hservice'⟩ := h'
  refine ⟨es ++ es', by rw [htrace', htrace, List.append_assoc], ?_⟩
  rw [hservice', hservice, List.filterMap_append, Service.process_append]

/-- **The requests made** are all that the service has processed since. -/
theorem service_eq (h : w.Leads u) :
    u.service = Service.process w.service (u.requestsSince w) := by
  obtain ⟨events, htrace, hservice⟩ := h
  rw [hservice, requestsSince_eq htrace]

end Leads

theorem leads_note (w : World σ) (events : List Event)
    (h : events.filterMap Event.request? = []) : w.Leads (w.note events) :=
  ⟨events, rfl, by rw [h]; rfl⟩

theorem leads_send (w : World σ) (r : Request) : w.Leads (w.send r).1 :=
  ⟨[.request r], rfl, rfl⟩

/-- What comes of an operation: it makes requests, and what it gives has a property. -/
structure Performs {α : Type} (w : World σ) (P : α → Prop) (result : World σ × Except Failure α) :
    Prop where
  /-- It makes requests. -/
  leads : w.Leads result.1
  /-- What it gives has the property. -/
  gives : ∀ a, result.2 = .ok a → P a

namespace Performs

variable {α : Type} {P : α → Prop} {w u : World σ}

/-- An operation that fails at once. -/
theorem failed (e : Failure) : w.Performs P (w, .error e) := ⟨.refl w, by simp⟩

theorem after {result : World σ × Except Failure α} (h : w.Leads u)
    (hresult : u.Performs P result) : w.Performs P result :=
  ⟨h.trans hresult.leads, hresult.gives⟩

/-- A request whose reply is read. -/
theorem ofSend {r : Request} {f : Value → Except Failure α} (h : ∀ v a, f v = .ok a → P a) :
    w.Performs P ((w.send r).1, (w.send r).2.bind f) := by
  refine ⟨w.leads_send r, fun a ha => ?_⟩
  cases hreply : (w.send r).2 with
  | error e => simp [hreply, Except.bind] at ha
  | ok v => exact h v a (by simpa [hreply, Except.bind] using ha)

/-- Work that is done with the credentials found. -/
theorem withCredentials {h : Handle} {given : Option Credentials}
    {work : World σ → Option Credentials → World σ × Except Failure α}
    (hwork : ∀ w c, World.Performs w P (work w c)) :
    w.Performs P (h.withCredentials w given work) := by
  unfold Handle.withCredentials Handle.credentials
  cases given with
  | some c => exact hwork w _
  | none =>
    cases h.stored with
    | some c => exact hwork w _
    | none =>
      have hnote := w.leads_note [.defaultCredentials] rfl
      cases w.ambient with
      | none => exact .after hnote (.failed _)
      | some c => exact .after hnote (hwork _ _)

end Performs

end World

/-! ### Operations on any service -/

/-- Whether a policy was read from a document. -/
def Policy.IsRead (p : Policy) : Prop := ∃ document, Policy.decode document = .ok p

namespace Edit

private theorem isNote_afterFailure (name : String) (a : Nat) (e : Failure) :
    ∀ event ∈ (afterFailure name a e).2, event.IsNote := by
  unfold afterFailure
  split
  · simp [Event.IsNote, retryLine, readLine]
  · simp

/-- Going on from a reply is noted at most. -/
theorem isNote_receive (change : Change) (name : String) (phase : Phase)
    (reply : Except Failure Value) :
    ∀ event ∈ (phase.receive change name reply).2, event.IsNote := by
  cases phase with
  | finished outcome => simp [Phase.receive]
  | reading a =>
    rw [Phase.receive]
    split
    · exact isNote_afterFailure name a _
    · rw [Phase.afterRead]
      split
      · exact isNote_afterFailure name a _
      · split
        · simp [Event.IsNote, unchangedLine]
        · split <;> simp [Event.IsNote, writeLine]
  | writing a fields =>
    rw [Phase.receive]
    split
    · exact isNote_afterFailure name a _
    · simp

private theorem leads_step (call : Call) (w : World σ) (phase : Phase) :
    w.Leads (call.step w phase).1 := by
  unfold Call.step
  split
  · exact .refl w
  · next action _ =>
    exact (w.leads_send ⟨call.collection, call.name, action, call.credentials⟩).trans
      (World.leads_note _ _ (Event.filterMap_request?_of_isNote
        (isNote_receive call.change call.name phase _)))

/-- An edit that ends with a policy has read it. -/
private theorem Received.isRead {change : Change} {phase phase' : Phase}
    {reply : Except Failure Value} (h : Received change phase reply phase')
    (hphase : ∀ p, phase = .finished (.ok p) → p.IsRead) {p : Policy}
    (hp : phase' = .finished (.ok p)) : p.IsRead := by
  cases h with
  | unchanged hread =>
    obtain rfl := Except.ok.inj (Phase.finished.inj hp)
    exact ⟨_, hread⟩
  | written document => exact ⟨document, Phase.finished.inj hp⟩
  | ended => exact hphase p hp
  | _ => simp at hp

private theorem Phase.eq_finished_of_outcome {phase : Phase} {p : Policy}
    (h : phase.outcome = .ok p) : phase = .finished (.ok p) := by
  cases phase with
  | finished outcome => exact congrArg Phase.finished h
  | _ => simp [Phase.outcome] at h

private theorem isRead_step (call : Call) (w : World σ) {phase : Phase}
    (h : ∀ p, phase = .finished (.ok p) → p.IsRead) {p : Policy}
    (hp : (call.step w phase).2 = .finished (.ok p)) : p.IsRead := by
  cases phase with
  | finished outcome => exact h p hp
  | reading a => exact (call.step_of_action w (.reading a) rfl).2.isRead h hp
  | writing a fields => exact (call.step_of_action w (.writing a fields) rfl).2.isRead h hp

end Edit

namespace World

open Edit in
theorem performs_modify (w : World σ) (credentials : Option Credentials) (name : String)
    (change : Change) : w.Performs Policy.IsRead (w.modify credentials name change) := by
  unfold modify
  split
  · exact .failed _
  · next collection _ =>
    have hstart : w.Leads (w.note [readLine name]) ∧
        ∀ p, Phase.reading 1 = .finished (.ok p) → p.IsRead := ⟨w.leads_note _ rfl, by simp⟩
    have hstep : ∀ u phase, (w.Leads u ∧ ∀ p, phase = .finished (.ok p) → p.IsRead) →
        w.Leads (Call.step ⟨collection, name, credentials, change⟩ u phase).1 ∧
          ∀ p, (Call.step ⟨collection, name, credentials, change⟩ u phase).2 =
            .finished (.ok p) → p.IsRead :=
      fun u phase h => ⟨h.1.trans (leads_step _ u phase), fun p => isRead_step _ u h.2⟩
    obtain ⟨hleads, hread⟩ := Call.steps_keeps
      (P := fun u phase => w.Leads u ∧ ∀ p, phase = .finished (.ok p) → p.IsRead) hstep
      (2 * maxAttempts) hstart
    exact ⟨hleads, fun p hp => hread p (Phase.eq_finished_of_outcome hp)⟩

theorem performs_getPolicy (w : World σ) (credentials : Option Credentials) (name : String)
    (version : Value) : w.Performs Policy.IsRead (w.getPolicy credentials name version) := by
  have hnote := w.leads_note [Edit.readLine name] rfl
  unfold getPolicy
  split
  · exact .failed _
  · exact .after hnote (.ofSend fun v _ hv => ⟨v, hv⟩)

theorem performs_setPolicy (w : World σ) (credentials : Option Credentials) (name : String)
    (p : Policy) : w.Performs Policy.IsRead (w.setPolicy credentials name p) := by
  have hnote := w.leads_note [Edit.writeLine name p.etag] rfl
  unfold setPolicy
  split
  · exact .failed _
  · dsimp only
    split
    · exact .after hnote (.failed _)
    · exact .after hnote (.ofSend fun v _ hv => ⟨v, hv⟩)

theorem performs_testPermissions (w : World σ) (credentials : Option Credentials) (name : String)
    (permissions : Value) :
    w.Performs (fun _ => True) (w.testPermissions credentials name permissions) := by
  unfold testPermissions
  dsimp only
  split
  · exact .failed _
  · exact .failed _
  · exact .ofSend fun _ _ _ => trivial

end World

namespace Handle

variable (h : Handle) (w : World σ) (given : Option Credentials)

theorem performs_policy (version : Value) :
    w.Performs Policy.IsRead (h.policy w given version) :=
  .withCredentials fun w c => w.performs_getPolicy c _ version

theorem performs_testPermissions (permissions : Value) :
    w.Performs (fun _ => True) (h.testPermissions w given permissions) :=
  .withCredentials fun w c => w.performs_testPermissions c _ permissions

private theorem performs_changeBinding (role : RoleArgument) (members : List MemberArgument)
    (change : Role → List Identity → Change) :
    w.Performs Policy.IsRead (h.changeBinding w given role members change) := by
  unfold changeBinding
  split
  · exact .failed _
  · split
    · exact .failed _
    · split
      · exact .failed _
      · exact .withCredentials fun w c => w.performs_modify c _ _

theorem performs_write (c : WriteCall) : w.Performs Policy.IsRead (c.run h w given) := by
  cases c with
  | replace p => exact .withCredentials fun w c => w.performs_setPolicy c _ p
  | add role members => exact h.performs_changeBinding w given role members _
  | remove role members => exact h.performs_changeBinding w given role members _

theorem performs_admins : w.Performs (fun _ => True) (h.admins w given) := by
  refine ⟨?_, fun _ _ => trivial⟩
  have hleads := (h.performs_policy w given .null).leads
  unfold admins
  split
  · split
    · next hpolicy => simpa [hpolicy] using hleads
    · next hpolicy => simpa [hpolicy] using hleads
  · exact .refl w

end Handle

/-- Does an operation that writes on the resource of a name. -/
def WriteCall.runNamed (c : WriteCall) (w : World σ) (name : Value) (given : Option Credentials) :
    World σ × Except Failure Policy :=
  match c with
  | replace p => Admin.setPolicy w name given p
  | add role members => Admin.addBinding w name given role members
  | remove role members => Admin.removeBinding w name given role members

namespace Admin

variable (w : World σ) (name : Value) (given : Option Credentials)

private theorem performs_onName {α : Type} {P : α → Prop}
    {work : Handle → World σ × Except Failure α} (hwork : ∀ h, w.Performs P (work h)) :
    w.Performs P (onName w name given work) := by
  unfold onName
  split
  · exact .failed _
  · exact hwork _

theorem performs_getPolicy (version : Value) :
    w.Performs Policy.IsRead (getPolicy w name given version) :=
  performs_onName w name given fun h => h.performs_policy w none version

theorem performs_testPermissions (permissions : Value) :
    w.Performs (fun _ => True) (testPermissions w name given permissions) :=
  performs_onName w name given fun h => h.performs_testPermissions w none permissions

theorem performs_runNamed (c : WriteCall) :
    w.Performs Policy.IsRead (c.runNamed w name given) := by
  cases c with
  | replace p => exact performs_onName w name given fun h => h.performs_write w none (.replace p)
  | add role members =>
    show w.Performs Policy.IsRead (addBinding w name given role members)
    unfold addBinding
    split
    · exact .failed _
    · exact performs_onName w name given fun h => h.performs_write w none (.add role members)
  | remove role members =>
    show w.Performs Policy.IsRead (removeBinding w name given role members)
    unfold removeBinding
    split
    · exact .failed _
    · exact performs_onName w name given fun h => h.performs_write w none (.remove role members)

end Admin

/-! ### Sessions -/

namespace Session

/-- One operation of a session. -/
inductive Step where
  /-- Reads the policy of a resource. -/
  | read (h : Handle) (given : Option Credentials) (version : Value)
  /-- Writes the policy of a resource. -/
  | write (h : Handle) (given : Option Credentials) (c : WriteCall)
  /-- Asks which permissions the caller holds on a resource. -/
  | test (h : Handle) (given : Option Credentials) (permissions : Value)
  /-- Asks for the administrators of an organization. -/
  | admins (h : Handle) (given : Option Credentials)
  /-- Reads the policy of the resource of a name. -/
  | readNamed (name : Value) (given : Option Credentials) (version : Value)
  /-- Writes the policy of the resource of a name. -/
  | writeNamed (name : Value) (given : Option Credentials) (c : WriteCall)
  /-- Asks which permissions the caller holds on the resource of a name. -/
  | testNamed (name : Value) (given : Option Credentials) (permissions : Value)
  /-- Reads a policy, with no check of the name. -/
  | fetch (credentials : Option Credentials) (name : String) (version : Value)
  /-- Stores a policy, with no check of the name. -/
  | store (credentials : Option Credentials) (name : String) (p : Policy)
  /-- Asks which permissions the caller holds, with no check of the name. -/
  | ask (credentials : Option Credentials) (name : String) (permissions : Value)
  /-- Changes a policy in some way, with no check of the name. -/
  | modify (credentials : Option Credentials) (name : String) (change : Change)

/-- Does an operation. What it gives is told if it is a policy. -/
def Step.perform (w : World σ) : Step → World σ × Except Failure (Option Policy)
  | read h given version => policy (h.policy w given version)
  | write h given c => policy (c.run h w given)
  | test h given permissions => other (h.testPermissions w given permissions)
  | admins h given => other (h.admins w given)
  | readNamed name given version => policy (Admin.getPolicy w name given version)
  | writeNamed name given c => policy (c.runNamed w name given)
  | testNamed name given permissions => other (Admin.testPermissions w name given permissions)
  | fetch credentials name version => policy (w.getPolicy credentials name version)
  | store credentials name p => policy (w.setPolicy credentials name p)
  | ask credentials name permissions => other (w.testPermissions credentials name permissions)
  | modify credentials name change => policy (w.modify credentials name change)
where
  /-- A result that is a policy. -/
  policy (result : World σ × Except Failure Policy) : World σ × Except Failure (Option Policy) :=
    (result.1, result.2.map some)
  /-- A result that is none. -/
  other {α : Type} (result : World σ × Except Failure α) :
      World σ × Except Failure (Option Policy) :=
    (result.1, result.2.map fun _ => none)

omit [Service σ] in
/-- A result that is a policy is told as one. -/
theorem policy_eq_ok_iff {result : World σ × Except Failure Policy} {o : Option Policy} :
    (Step.perform.policy result).2 = .ok o ↔ ∃ p, result.2 = .ok p ∧ o = some p := by
  obtain ⟨u, _ | p⟩ := result
  · simp [Step.perform.policy, Except.map]
  · simp [Step.perform.policy, Except.map, eq_comm]

private theorem performs_policy {w : World σ} {result : World σ × Except Failure Policy}
    (h : w.Performs Policy.IsRead result) :
    w.Performs (fun o : Option Policy => ∀ p ∈ o, p.IsRead) (Step.perform.policy result) := by
  refine ⟨h.leads, fun o ho p hp => ?_⟩
  obtain ⟨q, hq, rfl⟩ := policy_eq_ok_iff.mp ho
  obtain rfl := Option.mem_some_iff.mp hp
  exact h.gives q hq

private theorem performs_other {α : Type} {P : α → Prop} {w : World σ}
    {result : World σ × Except Failure α} (h : w.Performs P result) :
    w.Performs (fun o : Option Policy => ∀ p ∈ o, p.IsRead) (Step.perform.other result) := by
  refine ⟨h.leads, fun o ho p hp => ?_⟩
  obtain ⟨u, _ | a⟩ := result
  · simp [Step.perform.other, Except.map] at ho
  · obtain rfl : none = o := Except.ok.inj ho
    simp at hp

/-- **Operations.** An operation makes requests, and nothing else. The policy that it gives was read
from a document. -/
theorem Step.performs (w : World σ) (step : Step) :
    w.Performs (fun o : Option Policy => ∀ p ∈ o, p.IsRead) (step.perform w) := by
  cases step with
  | read h given version => exact performs_policy (h.performs_policy w given version)
  | write h given c => exact performs_policy (h.performs_write w given c)
  | test h given permissions =>
    exact performs_other (h.performs_testPermissions w given permissions)
  | admins h given => exact performs_other (h.performs_admins w given)
  | readNamed name given version =>
    exact performs_policy (Admin.performs_getPolicy w name given version)
  | writeNamed name given c => exact performs_policy (Admin.performs_runNamed w name given c)
  | testNamed name given permissions =>
    exact performs_other (Admin.performs_testPermissions w name given permissions)
  | fetch credentials name version =>
    exact performs_policy (w.performs_getPolicy credentials name version)
  | store credentials name p => exact performs_policy (w.performs_setPolicy credentials name p)
  | ask credentials name permissions =>
    exact performs_other (w.performs_testPermissions credentials name permissions)
  | modify credentials name change =>
    exact performs_policy (w.performs_modify credentials name change)

/-- The world after operations in turn, whichever of them fail. -/
def run (w : World σ) (steps : List Step) : World σ :=
  steps.foldl (fun w step => (step.perform w).1) w

theorem run_append (w : World σ) (steps steps' : List Step) :
    run w (steps ++ steps') = run (run w steps) steps' :=
  List.foldl_append

/-- **Sessions.** A session makes requests, and nothing else. -/
theorem leads_run (w : World σ) (steps : List Step) : w.Leads (run w steps) := by
  induction steps generalizing w with
  | nil => exact .refl w
  | cons step rest ih => exact (step.performs w).leads.trans (ih _)

end Session

end AccessPolicy
