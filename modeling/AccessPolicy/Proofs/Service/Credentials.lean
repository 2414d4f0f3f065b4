import AccessPolicy.Proofs.Service.Amendment
import AccessPolicy.Proofs.Service.Session

/-!
# Arguments first, then one credential

A role is granted to members and revoked from them by names and member strings as they come, so an
argument may be wrong. All of them are read before anything else is done: one that cannot be read
ends the operation with nothing done, not even a look for credentials. After that credentials are
chosen once, and all requests carry them, however many attempts the operation makes.

* `Event.Carries`, `World.Carries`: requests that carry the credentials chosen, and no look for
  other ones;
* `World.Validates`: what an operation that looks at its arguments first comes to;
* `Handle.withCredentials_eq`: the choice of credentials;
* `Petition.validates_run`, `Petition.validates_runNamed`, `Admin.validates_setPolicy`: grants,
  revocations and replacements look at their arguments first.
-/

namespace AccessPolicy

/-! ### Requests that carry credentials -/

/-- Whether an event is in order once credentials were chosen, if there are any: a request carries
them, and no default ones are looked up. -/
def Event.Carries (c : Option Credentials) : Event → Prop
  | .request r => c ≠ none ∧ r.credentials = c
  | .defaultCredentials => False
  | .log .. | .wait _ => True

theorem Event.IsNote.carries {e : Event} (h : e.IsNote) (c : Option Credentials) :
    e.Carries c := by
  cases e with
  | log level text => trivial
  | wait seconds => trivial
  | request r => exact h.elim
  | defaultCredentials => exact h.elim

variable {σ : Type}

namespace World

/-- Whether a world comes after another one by events that are in order with credentials. -/
def Carries (c : Option Credentials) (w w' : World σ) : Prop :=
  ∃ events, w'.trace = w.trace ++ events ∧ ∀ e ∈ events, e.Carries c

namespace Carries

variable {c : Option Credentials} {w u v : World σ}

theorem refl (c : Option Credentials) (w : World σ) : Carries c w w := ⟨[], by simp, by simp⟩

theorem trans (h : Carries c w u) (h' : Carries c u v) : Carries c w v := by
  obtain ⟨events, htrace, hevents⟩ := h
  obtain ⟨events', htrace', hevents'⟩ := h'
  refine ⟨events ++ events', by rw [htrace', htrace, List.append_assoc], fun e he => ?_⟩
  exact (List.mem_append.mp he).elim (hevents e) (hevents' e)

theorem note {events : List Event} (h : ∀ e ∈ events, e.IsNote) : Carries c w (w.note events) :=
  ⟨events, rfl, fun e he => (h e he).carries c⟩

theorem send [Service σ] {c : Credentials} {r : Request} (hr : r.credentials = some c) :
    Carries (some c) w (w.send r).1 :=
  ⟨[.request r], rfl, by simp [Event.Carries, hr]⟩

end Carries

section

variable [Service σ]

private theorem carries_step (call : Edit.Call) {c : Credentials} (hc : call.credentials = some c)
    (w : World σ) (phase : Edit.Phase) : Carries (some c) w (call.step w phase).1 := by
  unfold Edit.Call.step
  split
  · exact .refl _ w
  · next action _ =>
    have hsend := @Carries.send _ w _ c
      ⟨call.collection, call.name, action, call.credentials⟩ hc
    exact hsend.trans (.note (Edit.isNote_receive call.change call.name phase _))

/-- **An edit** makes all its requests, over all its attempts, with the credentials it is given. -/
theorem carries_modify (w : World σ) (c : Credentials) (name : String) (change : Change) :
    Carries (some c) w (w.modify (some c) name change).1 := by
  unfold modify
  split
  · exact .refl _ w
  · next collection _ =>
    have hline : ∀ e ∈ [Edit.readLine name], e.IsNote := by simp [Edit.readLine, Event.IsNote]
    have hstart : Carries (some c) w (w.note [Edit.readLine name]) := .note hline
    -- whatever phase an attempt is in, its next step carries them as well
    have hstep : ∀ u phase, Carries (some c) w u →
        Carries (some c) w (Edit.Call.step ⟨collection, name, some c, change⟩ u phase).1 :=
      fun u phase h => h.trans (carries_step _ rfl u phase)
    have hsteps := @Edit.Call.steps_keeps _ _ ⟨collection, name, some c, change⟩
      (fun u _ => Carries (some c) w u) hstep (2 * Edit.maxAttempts) _ (.reading 1) hstart
    exact hsteps

theorem carries_setPolicy (w : World σ) (c : Credentials) (name : String) (p : Policy) :
    Carries (some c) w (w.setPolicy (some c) name p).1 := by
  have hnote : Carries (some c) w (w.note [Edit.writeLine name p.etag]) :=
    .note (by simp [Edit.writeLine, Event.IsNote])
  unfold setPolicy
  split
  · exact .refl _ w
  · dsimp only
    split
    · exact hnote
    · exact hnote.trans (.send rfl)

end

/-- What is noted when credentials are chosen: a look for default ones, if no others are known. -/
def lookup (known : Option Credentials) : List Event :=
  if known.isSome then [] else [.defaultCredentials]

/-- What an operation comes to that looks at its arguments first. Refused arguments end it with
nothing done. Otherwise credentials are chosen, those that are known or else the default ones, and
then all requests carry them; without any, no request is made. The result is the world afterwards,
and whether the operation succeeded. -/
structure Validates (w : World σ) (refused : Prop) (known : Option Credentials)
    (result : World σ × Bool) : Prop where
  /-- Refused arguments end the operation with nothing done. -/
  stopped : refused → result = (w, false)
  /-- Otherwise all requests carry the credentials that were chosen before. -/
  carries : ¬ refused → Carries (known.or w.ambient) (w.note (lookup known)) result.1
  /-- Without credentials the operation fails, and no request is made. -/
  unfound : ¬ refused → known.or w.ambient = none → result = (w.note (lookup known), false)

/-- An operation with refused arguments that does nothing. -/
theorem Validates.of_refused {w : World σ} {refused : Prop} (h : refused)
    (known : Option Credentials) : w.Validates refused known (w, false) :=
  ⟨fun _ => rfl, fun hno => absurd h hno, fun hno => absurd h hno⟩

/-- The world after an operation, and whether it succeeded. -/
def succeeded {α : Type} (result : World σ × Except Failure α) : World σ × Bool :=
  (result.1, result.2.isOk)

end World

/-! ### The choice of credentials -/

namespace Handle

/-- **The choice of credentials.** Work is done once with the credentials that are chosen: given
ones, else stored ones, else the default ones. Without any it is not done at all. -/
theorem withCredentials_eq {α : Type} (h : Handle) (w : World σ) (given : Option Credentials)
    (work : World σ → Option Credentials → World σ × Except Failure α) :
    h.withCredentials w given work = match (given.or h.stored).or w.ambient with
      | some c => work (w.note (World.lookup (given.or h.stored))) (some c)
      | none => (w.note (World.lookup (given.or h.stored)), .error .noCredentials) := by
  have hnote : w.note [] = w := by simp [World.note]
  unfold withCredentials credentials World.lookup
  cases given with
  | some c => simp [hnote]
  | none =>
    cases h.stored with
    | some c => simp [hnote]
    | none => cases w.ambient <;> simp

/-- Work that is done with credentials, if no argument is refused. -/
theorem validates_withCredentials {α : Type} {refused : Prop} {h : Handle} {w : World σ}
    {given : Option Credentials}
    {work : World σ → Option Credentials → World σ × Except Failure α}
    (hwork : ∀ u c, World.Carries (some c) u (work u (some c)).1) (hno : ¬ refused) :
    w.Validates refused (given.or h.stored) (World.succeeded (h.withCredentials w given work)) where
  stopped hrefused := absurd hrefused hno
  carries _ := by
    rw [withCredentials_eq]
    cases (given.or h.stored).or w.ambient with
    | none => exact .refl _ _
    | some c => exact hwork _ c
  unfound _ hnone := by
    rw [withCredentials_eq, hnone]
    rfl

end Handle

/-- Work on the resource of a name, which is an argument as well. -/
theorem Admin.validates_onName {α : Type} {refused : Prop} {w : World σ} {name : Value}
    {given : Option Credentials} {work : Handle → World σ × Except Failure α}
    (hwork : ∀ r, w.Validates refused given (World.succeeded (work ⟨r, given⟩))) :
    w.Validates (refused ∨ ∃ e, Resource.ofValue name = .error e) given
      (World.succeeded (Admin.onName w name given work)) := by
  unfold Admin.onName
  cases hname : Resource.ofValue name with
  | error e => exact .of_refused (.inr ⟨e, rfl⟩) given
  | ok r =>
    obtain ⟨hstopped, hcarries, hunfound⟩ := hwork r
    exact ⟨fun h => hstopped (h.resolve_right nofun), fun h => hcarries fun hr => h (.inl hr),
      fun h => hunfound fun hr => h (.inl hr)⟩

/-! ### Grants and revocations as callers ask for them -/

/-- A grant or a revocation as a caller asks for it: a role by its name, which may be missing, and
member strings as they come. -/
structure Petition where
  /-- Whether the role is to be granted or revoked. -/
  kind : Amendment.Kind
  /-- The name of the role. -/
  role : Option String
  /-- The member strings. -/
  members : List Value

namespace Petition

/-- The operation that is asked for. -/
def call (a : Petition) : WriteCall :=
  match a.kind with
  | .grant => .add (.named (a.role.elim .null .text)) (a.members.map .member)
  | .revoke => .remove (.named (a.role.elim .null .text)) (a.members.map .member)

/-- Whether an argument is wrong: there is no role, no member, or one that is no member string. -/
inductive Refused (a : Petition) : Prop where
  /-- There is no role. -/
  | role (h : a.role = none)
  /-- There is no member. -/
  | members (h : a.members = [])
  /-- A member cannot be read. -/
  | member {m : Value} (hm : m ∈ a.members) {e : Rejection} (h : Identity.ofValue m = .error e)

/-- Members are read exactly if each of them is. -/
private theorem exists_resolveAll_iff {members : List Value} :
    (∃ ids, MemberArgument.resolveAll (members.map .member) = .ok ids) ↔
      ∀ m ∈ members, ∃ i, Identity.ofValue m = .ok i := by
  induction members with
  | nil => simp [MemberArgument.resolveAll]
  | cons m rest ih =>
    rw [List.map_cons, MemberArgument.resolveAll, MemberArgument.resolve, List.forall_mem_cons,
      ← ih]
    cases Identity.ofValue m with
    | error e => simp [Except.mapError]
    | ok i =>
      cases MemberArgument.resolveAll (rest.map .member) <;> simp [Except.mapError]

variable [Service σ] (a : Petition) (h : Handle) (w : World σ) (given : Option Credentials)

/-- A petition is a change of members. -/
private theorem exists_run_eq : ∃ change : Role → List Identity → Change,
    a.call.run h w given =
      h.changeBinding w given (.named (a.role.elim .null .text)) (a.members.map .member)
        change := by
  unfold call
  cases a.kind with
  | grant => exact ⟨Handle.granting, rfl⟩
  | revoke => exact ⟨Handle.revoking, rfl⟩

/-- **Grants and revocations** on a resource look at their arguments first. -/
theorem validates_run :
    w.Validates a.Refused (given.or h.stored) (World.succeeded (a.call.run h w given)) := by
  obtain ⟨change, hrun⟩ := a.exists_run_eq h w given
  rw [hrun, Handle.changeBinding]
  by_cases hmembers : a.members = []
  · rw [hmembers]
    exact .of_refused (.members hmembers) _
  · rw [if_neg (by simpa using hmembers)]
    cases hrole : a.role with
    | none => exact .of_refused (.role hrole) _
    | some name =>
      dsimp only [Option.elim, RoleArgument.resolve, Role.ofValue]
      cases hids : MemberArgument.resolveAll (a.members.map .member) with
      | error e =>
        have hrefused : a.Refused := by
          by_contra hno
          obtain ⟨ids, hall⟩ := exists_resolveAll_iff.mpr fun m hm => by
            cases hread : Identity.ofValue m with
            | ok i => exact ⟨i, rfl⟩
            | error e' => exact absurd (.member hm hread) hno
          rw [hids] at hall
          cases hall
        exact .of_refused hrefused _
      | ok ids =>
        have hno : ¬ a.Refused := by
          rintro (h | h | ⟨hm, h⟩)
          · simp [h] at hrole
          · exact hmembers h
          · obtain ⟨i, hi⟩ := exists_resolveAll_iff.mp ⟨ids, hids⟩ _ hm
            rw [h] at hi
            cases hi
        exact Handle.validates_withCredentials (fun u c => World.carries_modify u c _ _) hno

/-- **Grants and revocations** on the resource of a name look at all their arguments first. -/
theorem validates_runNamed (name : Value) :
    w.Validates (a.Refused ∨ ∃ e, Resource.ofValue name = .error e) given
      (World.succeeded (a.call.runNamed w name given)) := by
  by_cases hmembers : a.members = []
  · have hrun : a.call.runNamed w name given = (w, .error .noMembers) := by
      unfold call
      cases a.kind <;> simp [WriteCall.runNamed, Admin.addBinding, Admin.removeBinding, hmembers]
    rw [hrun]
    exact .of_refused (.inl (.members hmembers)) given
  · have hrun : a.call.runNamed w name given =
        Admin.onName w name given fun h => a.call.run h w none := by
      unfold call
      cases a.kind <;>
        simp [WriteCall.runNamed, WriteCall.run, Admin.addBinding, Admin.removeBinding, hmembers]
    rw [hrun]
    exact Admin.validates_onName fun r => a.validates_run ⟨r, given⟩ w none

end Petition

/-- A policy is stored for the resource of a name: the name is the only argument that may be
wrong. -/
theorem Admin.validates_setPolicy [Service σ] (w : World σ) (name : Value)
    (given : Option Credentials) (p : Policy) :
    w.Validates (∃ e, Resource.ofValue name = .error e) given
      (World.succeeded (Admin.setPolicy w name given p)) := by
  have hwork : ∀ r, w.Validates False given
      (World.succeeded (Handle.replacePolicy ⟨r, given⟩ w none p)) := fun r => by
    have hreplace := @Handle.validates_withCredentials _ _ False ⟨r, given⟩ w none
      (fun u c => u.setPolicy c r.fullName p) (fun u c => World.carries_setPolicy u c _ _) not_false
    exact hreplace
  have hname := @Admin.validates_onName _ _ False w name given (fun h => h.replacePolicy w none p)
    hwork
  rwa [false_or] at hname

end AccessPolicy
