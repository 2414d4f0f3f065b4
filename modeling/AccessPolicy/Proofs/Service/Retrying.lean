import AccessPolicy.Proofs.Policy.Calling
import AccessPolicy.Proofs.Service.Session
import Mathlib.Algebra.Group.Nat.Defs

/-!
# The attempts of an edit, one after the other

An edit that got as far as its first read makes one to five attempts. All but the last are refused:
the service answers the read or the write with a conflict. After each of them a line is logged, and
the edit waits, twice as long as before. The last one ends in another way or is the fifth, and its
outcome is that of the edit. All this is in the trace, which holds nothing else.

* `Edit.Attempted`: the ways an attempt goes, with the events that it leaves and its outcome;
* `Edit.Refused`, `Edit.Retried`: attempts that are refused, and some of them in turn;
* `World.modify_history`: the history of an edit.
-/

namespace AccessPolicy

/-! ### Attempts -/

theorem Failure.isConflict_iff {e : Failure} :
    e.isConflict = true ↔ ∃ status reason, e = .service status reason ∧
      (status = 409 ∨ status = 412) := by
  cases e <;> simp [isConflict]

namespace Edit

/-- The request that reads the policy. -/
def Call.readRequest (call : Call) : Request :=
  ⟨call.collection, call.name, .getPolicy .null, call.credentials⟩

/-- The request that writes a document with the given fields. -/
def Call.writeRequest (call : Call) (fields : List (Value × Value)) : Request :=
  ⟨call.collection, call.name, .setPolicy fields, call.credentials⟩

section Service

variable {σ : Type} [Service σ]

/-- The policy of the resource is read. -/
def Fetched (call : Call) (s t : σ) (current : Policy) : Prop :=
  ∃ document, Service.answer s call.readRequest = (t, .ok document) ∧
    Policy.decode document = .ok current

/-- A policy is to be written, by a document with the given fields. -/
structure Drafted (call : Call) (s t : σ) (updated : Policy) (fields : List (Value × Value)) :
    Prop where
  /-- It is what the change makes of the policy that was read, and differs from it. -/
  made : ∃ current, Fetched call s t current ∧ changed call.change current = .ok updated ∧
    updated.same current = false
  /-- The document is its own. -/
  encoded : fieldsOf updated = .ok fields

/-- An attempt of an edit on a service: the events that it leaves, the service after it, and its
outcome. -/
inductive Attempted (call : Call) (s : σ) : List Event → σ → Except Failure Policy → Prop where
  /-- The read fails. -/
  | unread {t : σ} {e : Failure} (hread : Service.answer s call.readRequest = (t, .error e)) :
    Attempted call s [readLine call.name, .request call.readRequest] t (.error e)
  /-- What is read is no policy. -/
  | undecoded {t : σ} {document : Value} {e : Failure}
    (hread : Service.answer s call.readRequest = (t, .ok document))
    (hdecode : Policy.decode document = .error e) :
    Attempted call s [readLine call.name, .request call.readRequest] t (.error e)
  /-- The change fails. -/
  | unmade {t : σ} {current : Policy} {e : Failure} (hfetched : Fetched call s t current)
    (hchanged : changed call.change current = .error e) :
    Attempted call s [readLine call.name, .request call.readRequest] t (.error e)
  /-- The change makes no difference. -/
  | unchanged {t : σ} {current updated : Policy} (hfetched : Fetched call s t current)
    (hchanged : changed call.change current = .ok updated)
    (hsame : updated.same current = true) :
    Attempted call s
      [readLine call.name, .request call.readRequest, unchangedLine call.name] t (.ok current)
  /-- The changed policy has no document. -/
  | unwritable {t : σ} {current updated : Policy} {e : Failure}
    (hfetched : Fetched call s t current) (hchanged : changed call.change current = .ok updated)
    (hdiffers : updated.same current = false) (hfields : fieldsOf updated = .error e) :
    Attempted call s
      [readLine call.name, .request call.readRequest, writeLine call.name updated.etag] t
      (.error e)
  /-- The document of the changed policy is sent, and the reply is read. -/
  | sent {t u : σ} {updated : Policy} {fields : List (Value × Value)}
    {reply : Except Failure Value} (hdrafted : Drafted call s t updated fields)
    (hwrite : Service.answer t (call.writeRequest fields) = (u, reply)) :
    Attempted call s
      [readLine call.name, .request call.readRequest, writeLine call.name updated.etag,
        .request (call.writeRequest fields)] u (reply.bind Policy.decode)

/-- An attempt that is refused: the service answers its read or its write with a conflict. -/
inductive Refused (call : Call) (s : σ) : List Event → σ → Prop where
  /-- The read is refused. -/
  | read {t : σ} {status : Int} {reason : String} (hstatus : status = 409 ∨ status = 412)
    (hread : Service.answer s call.readRequest = (t, .error (.service status reason))) :
    Refused call s [readLine call.name, .request call.readRequest] t
  /-- The write is refused. -/
  | write {t u : σ} {updated : Policy} {fields : List (Value × Value)} {status : Int}
    {reason : String} (hstatus : status = 409 ∨ status = 412)
    (hdrafted : Drafted call s t updated fields)
    (hwrite : Service.answer t (call.writeRequest fields) =
      (u, .error (.service status reason))) :
    Refused call s
      [readLine call.name, .request call.readRequest, writeLine call.name updated.etag,
        .request (call.writeRequest fields)] u

/-- Some attempts in turn that are refused. Each is followed by a line and a wait, of one second
after the first attempt and twice as long after each other one. -/
inductive Retried (call : Call) (s : σ) : Nat → List Event → σ → Prop where
  /-- No attempt was made. -/
  | none : Retried call s 0 [] s
  /-- Another attempt is refused. -/
  | again {n : Nat} {before events : List Event} {t u : σ} (hbefore : Retried call s n before t)
    (hrefused : Refused call t events u) :
    Retried call s (n + 1) (before ++ events ++ [retryLine (n + 1), .wait (2 ^ n)]) u

/-! ### Steps along the history -/

/-- An outcome after which no other attempt is made, however many are left. -/
def Settled (outcome : Except Failure Policy) : Prop :=
  ∀ status reason, outcome = .error (.service status reason) → status ≠ 409 ∧ status ≠ 412

theorem settled_ok (p : Policy) : Settled (.ok p) := by simp [Settled]

theorem settled_error {e : Failure} : Settled (.error e) ↔ e.isConflict = false := by
  rw [← Bool.not_eq_true, Failure.isConflict_iff]
  constructor
  · rintro h ⟨status, reason, rfl, hstatus⟩
    exact (not_or.mpr (h status reason rfl)) hstatus
  · rintro h status reason he
    exact not_or.mp fun hstatus => h ⟨status, reason, Except.error.inj he, hstatus⟩

/-- Where an edit stands in its history: between two requests the trace holds the attempts that were
refused, and the part of the next one that was made. -/
inductive Along (call : Call) (w : World σ) : World σ → Phase → Prop where
  /-- It is about to read. -/
  | reading {n : Nat} {before : List Event} {s : σ} (hbefore : Retried call w.service n before s)
    (hn : n < maxAttempts) :
    Along call w ⟨s, w.ambient, w.trace ++ before ++ [readLine call.name]⟩ (.reading (n + 1))
  /-- It read, and is about to write. -/
  | writing {n : Nat} {before : List Event} {s t : σ} {updated : Policy}
    {fields : List (Value × Value)} (hbefore : Retried call w.service n before s)
    (hn : n < maxAttempts) (hdrafted : Drafted call s t updated fields) :
    Along call w
      ⟨t, w.ambient, w.trace ++ before ++
        [readLine call.name, .request call.readRequest, writeLine call.name updated.etag]⟩
      (.writing (n + 1) fields)
  /-- It is at its end. -/
  | finished {n : Nat} {before last : List Event} {s t : σ} {outcome : Except Failure Policy}
    (hbefore : Retried call w.service n before s) (hn : n < maxAttempts)
    (hlast : Attempted call s last t outcome)
    (hend : n + 1 = maxAttempts ∨ Settled outcome) :
    Along call w ⟨t, w.ambient, w.trace ++ before ++ last⟩ (.finished outcome)

variable {call : Call} {w : World σ}

/-- A step makes the request that is due, and notes what is noted on its reply. -/
private theorem step_eq (call : Call) (s : σ) (ambient : Option Credentials)
    (trace : List Event) (phase : Phase) {action : Action} (h : phase.action? = some action)
    {t : σ} {reply : Except Failure Value}
    (hanswer : Service.answer s ⟨call.collection, call.name, action, call.credentials⟩ =
      (t, reply)) :
    call.step ⟨s, ambient, trace⟩ phase =
      (⟨t, ambient, trace ++ [.request ⟨call.collection, call.name, action, call.credentials⟩] ++
        (phase.receive call.change call.name reply).2⟩,
        (phase.receive call.change call.name reply).1) := by
  unfold Call.step
  rw [h]
  simp only [World.send, hanswer]
  rfl

/-- What follows an attempt that failed: another one, if it was refused and not the last. -/
private theorem Along.after_failure {n : Nat} {before events : List Event} {s t : σ} {e : Failure}
    (hbefore : Retried call w.service n before s) (hn : n < maxAttempts)
    (hattempted : Attempted call s events t (.error e))
    (hrefused : e.isConflict = true → Refused call s events t) :
    Along call w
      ⟨t, w.ambient, w.trace ++ before ++ events ++ (afterFailure call.name (n + 1) e).2⟩
      (afterFailure call.name (n + 1) e).1 := by
  unfold afterFailure
  split
  · next hagain =>
    simp only [Bool.and_eq_true, decide_eq_true_eq] at hagain
    -- the attempt joins those before it, and the line of the next read is already there
    have hafter := Along.reading (w := w) (.again hbefore (hrefused hagain.1)) hagain.2
    simpa [waitAfter] using hafter
  · next hend =>
    simp only [Bool.and_eq_true, decide_eq_true_eq, not_and_or, Bool.not_eq_true] at hend
    have hlast : n + 1 = maxAttempts ∨ Settled (.error e) :=
      hend.symm.imp (fun hle => by omega) settled_error.mpr
    simpa using Along.finished (w := w) hbefore hn hattempted hlast

/-- What is no conflict ends the edit. -/
private theorem Along.after_other {n : Nat} {before events : List Event} {s t : σ} {e : Failure}
    (hbefore : Retried call w.service n before s) (hn : n < maxAttempts)
    (hattempted : Attempted call s events t (.error e)) (he : e.isAnswer = false) :
    Along call w
      ⟨t, w.ambient, w.trace ++ before ++ events ++ (afterFailure call.name (n + 1) e).2⟩
      (afterFailure call.name (n + 1) e).1 :=
  .after_failure hbefore hn hattempted fun hconflict => by
    simp [isConflict_of_isAnswer he] at hconflict

private theorem isAnswer_of_changed {change : Change} (hchange : ∀ b, Builder.Calling b (change b))
    {current : Policy} (hcurrent : current.bindings.Sound) {e : Failure}
    (h : changed change current = .error e) : e.isAnswer = false := by
  rw [changed, Policy.toBuilder_of_sound hcurrent] at h
  dsimp only at h
  split at h
  · next b e' hfails =>
    have hcalling : Builder.Calling _ (.error e') := hfails ▸ hchange _
    exact Failure.isAnswer_of_eq h hcalling.isAnswer_of_error
  · simp at h

private theorem isAnswer_of_encode {p : Policy} {e : Failure} (h : p.encode = .error e) :
    e.isAnswer = false := by
  unfold Policy.encode Policy.sortedByRole at h
  split at h
  · next hsorted =>
    split at hsorted
    · simp at hsorted
    · exact Failure.isAnswer_of_eq h (Failure.isAnswer_of_eq hsorted rfl)
  · split at h
    · simp at h
    · exact Failure.isAnswer_of_eq h rfl

private theorem isAnswer_of_fieldsOf {p : Policy} {e : Failure} (h : fieldsOf p = .error e) :
    e.isAnswer = false := by
  unfold fieldsOf at h
  split at h
  · next hencode => exact Failure.isAnswer_of_eq h (isAnswer_of_encode hencode)
  · simp at h
  · exact Failure.isAnswer_of_eq h rfl

private theorem Along.step_reading (hchange : ∀ b, Builder.Calling b (call.change b)) {n : Nat}
    {before : List Event} {u : World σ} (hbefore : Retried call w.service n before u.service)
    (hn : n < maxAttempts) (hambient : u.ambient = w.ambient)
    (htrace : u.trace = w.trace ++ before ++ [readLine call.name]) :
    Along call w (call.step u (.reading (n + 1))).1 (call.step u (.reading (n + 1))).2 := by
  obtain ⟨s, ambient, trace⟩ := u
  subst hambient htrace
  cases hread : Service.answer s call.readRequest with
  | mk t reply =>
    rw [step_eq call s _ _ (.reading (n + 1)) rfl hread]
    cases reply with
    | error e =>
      have hafter := Along.after_failure hbefore hn (.unread hread) fun he => by
        obtain ⟨status, reason, rfl, hstatus⟩ := Failure.isConflict_iff.mp he
        exact .read hstatus hread
      simpa [Phase.receive, Except.bind, Call.readRequest] using hafter
    | ok document =>
      simp only [Phase.receive, Except.bind]
      cases hdecode : Policy.decode document with
      | error e =>
        have hafter := Along.after_other hbefore hn (.undecoded hread hdecode)
          (Policy.isAnswer_of_decode hdecode)
        simpa [Call.readRequest] using hafter
      | ok current =>
        have hfetched : Fetched call s t current := ⟨document, hread, hdecode⟩
        simp only [Phase.afterRead]
        cases hchanged : changed call.change current with
        | error e =>
          have hafter := Along.after_other hbefore hn (.unmade hfetched hchanged)
            (isAnswer_of_changed hchange (Policy.decode_sound hdecode) hchanged)
          simpa [Call.readRequest] using hafter
        | ok updated =>
          dsimp only
          by_cases hsame : updated.same current = true
          · have hend := Along.finished (w := w) hbefore hn
              (.unchanged hfetched hchanged hsame) (.inr (settled_ok current))
            simpa [hsame, Call.readRequest] using hend
          · have hdiffers := Bool.eq_false_iff.mpr hsame
            rw [if_neg hsame]
            cases hfields : fieldsOf updated with
            | error e =>
              have hend := Along.finished (w := w) hbefore hn
                (.unwritable hfetched hchanged hdiffers hfields)
                (.inr (settled_error.mpr (isConflict_of_isAnswer (isAnswer_of_fieldsOf hfields))))
              simpa [Call.readRequest] using hend
            | ok fields =>
              have hdrafted : Drafted call s t updated fields :=
                ⟨⟨current, hfetched, hchanged, hdiffers⟩, hfields⟩
              have hnext := Along.writing (w := w) hbefore hn hdrafted
              simpa [Call.readRequest] using hnext

private theorem Along.step_writing {n : Nat} {before : List Event} {s : σ} {updated : Policy}
    {fields : List (Value × Value)} {u : World σ} (hbefore : Retried call w.service n before s)
    (hn : n < maxAttempts) (hdrafted : Drafted call s u.service updated fields)
    (hambient : u.ambient = w.ambient)
    (htrace : u.trace = w.trace ++ before ++
      [readLine call.name, .request call.readRequest, writeLine call.name updated.etag]) :
    Along call w (call.step u (.writing (n + 1) fields)).1
      (call.step u (.writing (n + 1) fields)).2 := by
  obtain ⟨t, ambient, trace⟩ := u
  subst hambient htrace
  cases hwrite : Service.answer t (call.writeRequest fields) with
  | mk u reply =>
    have hattempted := Attempted.sent hdrafted hwrite
    rw [step_eq call t _ _ (.writing (n + 1) fields) rfl hwrite]
    cases reply with
    | error e =>
      have hafter := Along.after_failure hbefore hn hattempted fun he => by
        obtain ⟨status, reason, rfl, hstatus⟩ := Failure.isConflict_iff.mp he
        exact .write hstatus hdrafted hwrite
      simpa [Phase.receive, Except.bind, Call.writeRequest] using hafter
    | ok stored =>
      simp only [Except.bind] at hattempted
      simp only [Phase.receive, Except.bind]
      cases hreply : Policy.decode stored with
      | error e =>
        -- the write was accepted: that its reply cannot be read is no reason to try again
        have hafter := Along.after_other hbefore hn (hreply ▸ hattempted)
          (Policy.isAnswer_of_decode hreply)
        simpa [Call.writeRequest] using hafter
      | ok p =>
        have hend := Along.finished (w := w) hbefore hn (hreply ▸ hattempted) (.inr (settled_ok p))
        simpa [Call.writeRequest] using hend

/-- **A step of an edit** goes on along its history. -/
theorem Along.step (hchange : ∀ b, Builder.Calling b (call.change b)) {u : World σ} {phase : Phase}
    (h : Along call w u phase) : Along call w (call.step u phase).1 (call.step u phase).2 := by
  cases h with
  | reading hbefore hn => exact step_reading hchange hbefore hn rfl rfl
  | writing hbefore hn hdrafted => exact step_writing hbefore hn hdrafted rfl rfl
  | finished hbefore hn hlast hend => exact .finished hbefore hn hlast hend

/-- **The attempts of an edit.** -/
theorem Along.modify {credentials : Option Credentials} {name : String} {collection : Collection}
    (howning : Collection.owning name = .ok collection) {change : Change}
    (hchange : ∀ b, Builder.Calling b (change b)) (w : World σ) :
    Along ⟨collection, name, credentials, change⟩ w (w.modify credentials name change).1
      (.finished (w.modify credentials name change).2) := by
  unfold World.modify
  rw [howning]
  dsimp only
  generalize hcall : (⟨collection, name, credentials, change⟩ : Call) = call
  have hstart : Along call w (w.note [readLine name]) (.reading 1) := by
    subst hcall
    simpa [World.note] using Along.reading (w := w) .none (by decide)
  -- ten requests are all that five attempts can make
  have hend := Call.steps_keeps (P := Along call w) (fun _ _ => Along.step (by rwa [← hcall]))
    (2 * maxAttempts) hstart
  obtain ⟨outcome, hfinished⟩ := call.exists_finished_steps (w.note [readLine name])
    (.reading 1) (show Phase.budget (.reading 1) ≤ 2 * maxAttempts from le_rfl)
  rw [hfinished] at hend ⊢
  exact hend

/-! ### Requests of attempts -/

theorem Refused.attempted {s t : σ} {events : List Event} (h : Refused call s events t) :
    ∃ outcome, Attempted call s events t outcome := by
  cases h with
  | read _ hread => exact ⟨_, .unread hread⟩
  | write _ hdrafted hwrite => exact ⟨_, .sent hdrafted hwrite⟩

/-- An attempt reads once, and then writes at most once. -/
theorem Attempted.requests {s t : σ} {events : List Event} {outcome : Except Failure Policy}
    (h : Attempted call s events t outcome) :
    events.filterMap Event.request? = [call.readRequest] ∨
      ∃ fields, events.filterMap Event.request? = [call.readRequest, call.writeRequest fields] := by
  cases h with
  | @sent _ _ _ fields => exact .inr ⟨fields, rfl⟩
  | _ => exact .inl rfl

theorem Fetched.answer_eq {s t : σ} {current : Policy} (h : Fetched call s t current) :
    (Service.answer s call.readRequest).1 = t := by
  obtain ⟨document, hread, -⟩ := h
  exact congrArg Prod.fst hread

theorem Drafted.answer_eq {s t : σ} {updated : Policy} {fields : List (Value × Value)}
    (h : Drafted call s t updated fields) : (Service.answer s call.readRequest).1 = t := by
  obtain ⟨current, hfetched, -⟩ := h.made
  exact hfetched.answer_eq

/-- What an attempt does to the service, it does by its requests. -/
theorem Attempted.process_eq {s t : σ} {events : List Event} {outcome : Except Failure Policy}
    (h : Attempted call s events t outcome) :
    Service.process s (events.filterMap Event.request?) = t := by
  cases h with
  | unread hread | undecoded hread => exact congrArg Prod.fst hread
  | unmade hfetched | unchanged hfetched | unwritable hfetched => exact hfetched.answer_eq
  | @sent _ _ _ fields _ hdrafted hwrite =>
    show (Service.answer (Service.answer s call.readRequest).1 (call.writeRequest fields)).1 = t
    rw [hdrafted.answer_eq, hwrite]

/-- The line and the wait after an attempt are no requests. -/
theorem requests_pause (before events : List Event) (n seconds : Nat) :
    (before ++ events ++ [retryLine n, .wait seconds]).filterMap Event.request? =
      before.filterMap Event.request? ++ events.filterMap Event.request? := by
  have hnone : [retryLine n, .wait seconds].filterMap Event.request? = [] := rfl
  rw [List.filterMap_append, List.filterMap_append, hnone, List.append_nil]

theorem Retried.process_eq {s t : σ} {n : Nat} {events : List Event}
    (h : Retried call s n events t) : Service.process s (events.filterMap Event.request?) = t := by
  induction h with
  | none => rfl
  | again _ hrefused ih =>
    obtain ⟨outcome, hattempted⟩ := hrefused.attempted
    rw [requests_pause, Service.process_append, ih]
    exact hattempted.process_eq

/-- How many of some requests are of a method. -/
def requestCount (method : String) (requests : List Request) : Nat :=
  requests.countP (·.action.method == method)

theorem requestCount_append (method : String) (rs rs' : List Request) :
    requestCount method (rs ++ rs') = requestCount method rs + requestCount method rs' :=
  List.countP_append

theorem Attempted.requestCount {s t : σ} {events : List Event} {outcome : Except Failure Policy}
    (h : Attempted call s events t outcome) :
    Edit.requestCount "getIamPolicy" (events.filterMap Event.request?) = 1 ∧
      Edit.requestCount "setIamPolicy" (events.filterMap Event.request?) ≤ 1 := by
  rcases h.requests with hrequests | ⟨fields, hrequests⟩ <;> rw [hrequests]
  · exact ⟨rfl, Nat.zero_le 1⟩
  · exact ⟨rfl, Nat.le_refl 1⟩

/-- Attempts that are refused read once each, and write at most as often. -/
theorem Retried.requestCount {s t : σ} {n : Nat} {events : List Event}
    (h : Retried call s n events t) :
    Edit.requestCount "getIamPolicy" (events.filterMap Event.request?) = n ∧
      Edit.requestCount "setIamPolicy" (events.filterMap Event.request?) ≤ n := by
  induction h with
  | none => exact ⟨rfl, le_rfl⟩
  | again _ hrefused ih =>
    obtain ⟨outcome, hattempted⟩ := hrefused.attempted
    have hlast := hattempted.requestCount
    rw [requests_pause, requestCount_append, requestCount_append]
    omega

end Service

end Edit

/-! ### Writes that are stored -/

namespace Store

/-- Whether a request is a write that is stored: it arrives without failing, and carries no tag or
that of the document. -/
def accepts (s : Store) (r : Request) : Bool :=
  match r.action, s.arrive with
  | .setPolicy fields, (t, .ok ()) => !carriesOther (etagOf (t.current r.resource)) fields
  | _, _ => false

/-- Of requests that are processed in turn, which ones are writes that are stored. -/
def accepted (s : Store) : List Request → List Bool
  | [] => []
  | r :: rest => s.accepts r :: accepted (s.answer r).1 rest

theorem accepted_append (s : Store) (rs rs' : List Request) :
    s.accepted (rs ++ rs') = s.accepted rs ++ (Service.process s rs).accepted rs' := by
  induction rs generalizing s with
  | nil => rfl
  | cons r rest ih => exact congrArg _ (ih _)

/-- A write is stored exactly if the reply to it is no failure. -/
theorem accepts_write_iff (s : Store) {r : Request} {fields : List (Value × Value)}
    (hr : r.action = .setPolicy fields) :
    s.accepts r = true ↔ ∃ document, (s.answer r).2 = .ok document := by
  simp only [accepts, answer, hr]
  cases harrive : s.arrive with
  | mk t outcome =>
    cases outcome with
    | error e => simp [write_of_failed harrive]
    | ok u =>
      rw [write_of_arrived harrive]
      by_cases hother : carriesOther (etagOf (t.current r.resource)) fields = true
      · simp [hother]
      · simp [hother]

end Store

namespace Edit

variable {call : Call}

/-- The read of an attempt stores nothing. -/
theorem Call.accepts_readRequest (call : Call) (s : Store) :
    s.accepts call.readRequest = false := rfl

/-- The write of an attempt that is refused is not stored. -/
theorem Refused.accepted {s t : Store} {events : List Event} (h : Refused call s events t) :
    true ∉ s.accepted (events.filterMap Event.request?) := by
  cases h with
  | read =>
    show true ∉ s.accepted [call.readRequest]
    simp [Store.accepted, call.accepts_readRequest]
  | @write t u updated fields status reason hstatus hdrafted hwrite =>
    have hafter : (s.answer call.readRequest).1 = t := hdrafted.answer_eq
    have hreply : (t.answer (call.writeRequest fields)).2 = .error (.service status reason) :=
      congrArg Prod.snd hwrite
    have hrefused : t.accepts (call.writeRequest fields) = false := by
      rw [← Bool.not_eq_true, t.accepts_write_iff rfl, hreply]
      simp
    show true ∉ s.accepted [call.readRequest, call.writeRequest fields]
    simp [Store.accepted, call.accepts_readRequest, hafter, hrefused]

theorem Retried.accepted {s t : Store} {n : Nat} {events : List Event}
    (h : Retried call s n events t) :
    true ∉ s.accepted (events.filterMap Event.request?) := by
  induction h with
  | none => exact List.not_mem_nil
  | again hbefore hrefused ih =>
    rw [requests_pause, Store.accepted_append, hbefore.process_eq]
    exact List.not_mem_append ih hrefused.accepted

/-- In an attempt, nothing is requested after the write. -/
theorem Attempted.accepted {s t : Store} {events : List Event} {outcome : Except Failure Policy}
    (h : Attempted call s events t outcome) :
    true ∉ (s.accepted (events.filterMap Event.request?)).dropLast := by
  rcases h.requests with hrequests | ⟨fields, hrequests⟩ <;> rw [hrequests]
  · simp [Store.accepted]
  · simp [Store.accepted, call.accepts_readRequest]

/-! ### Histories -/

/-- The history of an edit that got as far as its first read and made `k` attempts, from a store to
another one. -/
structure History (call : Call) (w w' : World Store) (outcome : Except Failure Policy) (k : Nat) :
    Prop where
  /-- There is an attempt. -/
  pos : 1 ≤ k
  /-- There are at most five. -/
  le : k ≤ 5
  /-- All but the last are refused. The last one has the outcome of the edit. Nothing else is
  done. -/
  attempts : ∃ before s last, Retried call w.service (k - 1) before s ∧
    Attempted call s last w'.service outcome ∧ w'.trace = w.trace ++ before ++ last
  /-- The last one is the fifth, or its outcome is no conflict. -/
  ended : k = 5 ∨ ∀ status reason,
    outcome = .error (.service status reason) → status ≠ 409 ∧ status ≠ 412
  /-- There are as many reads as attempts. -/
  reads : requestCount "getIamPolicy" (w'.requestsSince w) = k
  /-- There are at most as many writes. -/
  writes : requestCount "setIamPolicy" (w'.requestsSince w) ≤ k
  /-- Nothing is requested after a write that was stored. -/
  stored : true ∉ (w.service.accepted (w'.requestsSince w)).dropLast

theorem Along.exists_history {w w' : World Store} {outcome : Except Failure Policy}
    (h : Along call w w' (.finished outcome)) : ∃ k, History call w w' outcome k := by
  cases h with
  | @finished n before last s t outcome hbefore hn hlast hend =>
    have hrequests : World.requestsSince ⟨t, w.ambient, w.trace ++ before ++ last⟩ w =
        before.filterMap Event.request? ++ last.filterMap Event.request? := by
      rw [World.requestsSince_eq (List.append_assoc ..), List.filterMap_append]
    have hcount := hbefore.requestCount
    have hcount' := hlast.requestCount
    refine ⟨n + 1, ⟨by omega, hn, ⟨before, s, last, hbefore, hlast, rfl⟩, hend, ?_, ?_, ?_⟩⟩
    · rw [hrequests, requestCount_append]
      omega
    · rw [hrequests, requestCount_append]
      omega
    · have hne : s.accepted (last.filterMap Event.request?) ≠ [] := by
        rcases hlast.requests with h | ⟨fields, h⟩ <;> simp [h, Store.accepted]
      rw [hrequests, Store.accepted_append, hbefore.process_eq,
        List.dropLast_append_of_ne_nil hne]
      exact List.not_mem_append hbefore.accepted hlast.accepted

end Edit

/-- **The attempts of an edit.** An edit whose change only calls a builder makes one to five
attempts. All but the last are refused with a conflict, and each of them is followed by a wait; the
last one ends otherwise or is the fifth, and it has the outcome of the edit. Each attempt reads
once, and writes at most once what the change makes of what it read. Nothing is requested after a
write that was stored. -/
theorem World.modify_history (w : World Store) (credentials : Option Credentials) {name : String}
    {collection : Collection} (howning : Collection.owning name = .ok collection) {change : Change}
    (hchange : ∀ b, Builder.Calling b (change b)) :
    ∃ k, Edit.History ⟨collection, name, credentials, change⟩ w
      (w.modify credentials name change).1 (w.modify credentials name change).2 k :=
  (Edit.Along.modify howning hchange w).exists_history

/-- A grant that meets a conflict on its first write and another one on its second read: it makes
three attempts. -/
theorem World.modify_history_two_conflicts :
    let w : World Store := { service := {
      readFaults := [none, some (.answer 409 "stale")]
      writeFaults := [some (.answer 412 "stale")] } }
    let change := Handle.granting ⟨.text "roles/viewer", .text "", .text ""⟩
      [⟨.user, .text "ann@example.com"⟩]
    Collection.owning "projects/p" = .ok .projects ∧ (∀ b, Builder.Calling b (change b)) ∧
      Edit.History ⟨.projects, "projects/p", some "me", change⟩ w
        (w.modify (some "me") "projects/p" change).1 (w.modify (some "me") "projects/p" change).2
        3 := by
  intro w change
  have howning : Collection.owning "projects/p" = .ok .projects := rfl
  have hchange : ∀ b, Builder.Calling b (change b) := Handle.calling_granting _ _
  obtain ⟨k, hhistory⟩ := w.modify_history (some "me") howning hchange
  have hreads : Edit.requestCount "getIamPolicy"
      ((w.modify (some "me") "projects/p" change).1.requestsSince w) = 3 := by
    with_unfolding_all rfl
  obtain rfl : 3 = k := hreads.symm.trans hhistory.reads
  exact ⟨howning, hchange, hhistory⟩

end AccessPolicy
