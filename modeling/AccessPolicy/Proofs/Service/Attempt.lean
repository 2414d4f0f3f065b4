import AccessPolicy.Proofs.Policy.Writing
import AccessPolicy.Proofs.Service.View
import AccessPolicy.Service.Edit

/-!
# The attempts of an edit

An edit goes on from each reply in one of a few ways (`Edit.Received`), whatever the service. Each
of them uses up some of a budget of requests, so an edit that makes ten requests is at its end. On a
store, an edit and the changes by others are told apart (`Edit.Stands`): the edit leaves no trace in
the store until a write of its own is accepted, and that ends it.

* `Edit.received_receive`: how an edit goes on from a reply;
* `Edit.Call.exists_finished_steps`: every edit ends;
* `World.modify_stands`: what a whole edit comes to on a store.
-/

namespace AccessPolicy

namespace Edit

/-! ### Going on from a reply -/

theorem isConflict_of_isAnswer {e : Failure} (h : e.isAnswer = false) : e.isConflict = false := by
  cases e <;> simp_all [Failure.isAnswer, Failure.isConflict]

/-- The ways to go on from a reply: the phase before, the reply, the phase after. -/
inductive Received (change : Change) : Phase → Except Failure Value → Phase → Prop where
  /-- A conflict was met before anything was written, and reading is tried again. -/
  | readAgain {a : Nat} {reply : Except Failure Value} {e : Failure} (he : e.isConflict = true)
    (ha : a < maxAttempts) :
    Received change (.reading a) reply (.reading (a + 1))
  /-- Reading failed, or what was read cannot be changed or written. -/
  | readFailed {a : Nat} {reply : Except Failure Value} (e : Failure) :
    Received change (.reading a) reply (.finished (.error e))
  /-- The change makes no difference. -/
  | unchanged {a : Nat} {document : Value} {current updated : Policy}
    (hread : Policy.decode document = .ok current) (hchanged : changed change current = .ok updated)
    (hsame : updated.same current = true) :
    Received change (.reading a) (.ok document) (.finished (.ok current))
  /-- The changed policy is to be written. -/
  | toWrite {a : Nat} {document : Value} {current updated : Policy}
    {fields : List (Value × Value)} (hread : Policy.decode document = .ok current)
    (hchanged : changed change current = .ok updated) (hdiffers : updated.same current = false)
    (hfields : fieldsOf updated = .ok fields) :
    Received change (.reading a) (.ok document) (.writing a fields)
  /-- Writing failed with a conflict, and all is tried again. -/
  | writeAgain {a : Nat} {fields : List (Value × Value)} {e : Failure} (he : e.isConflict = true)
    (ha : a < maxAttempts) :
    Received change (.writing a fields) (.error e) (.reading (a + 1))
  /-- Writing failed otherwise, or in the last attempt. -/
  | writeFailed {a : Nat} {fields : List (Value × Value)} (e : Failure)
    (he : e.isConflict = false ∨ maxAttempts ≤ a) :
    Received change (.writing a fields) (.error e) (.finished (.error e))
  /-- The write was accepted. -/
  | written {a : Nat} {fields : List (Value × Value)} (document : Value) :
    Received change (.writing a fields) (.ok document) (.finished (Policy.decode document))
  /-- The edit was at its end. -/
  | ended (outcome : Except Failure Policy) (reply : Except Failure Value) :
    Received change (.finished outcome) reply (.finished outcome)

private theorem afterFailure_cases (name : String) (a : Nat) (e : Failure) :
    (e.isConflict = true ∧ a < maxAttempts ∧ (afterFailure name a e).1 = .reading (a + 1)) ∨
      ((e.isConflict = false ∨ maxAttempts ≤ a) ∧
        (afterFailure name a e).1 = .finished (.error e)) := by
  unfold afterFailure
  by_cases h : (e.isConflict && a < maxAttempts) = true
  · rw [if_pos h]
    simp only [Bool.and_eq_true, decide_eq_true_eq] at h
    exact .inl ⟨h.1, h.2, rfl⟩
  · rw [if_neg h]
    simp only [Bool.and_eq_true, decide_eq_true_eq, not_and_or, Bool.not_eq_true, not_lt] at h
    exact .inr ⟨h, rfl⟩

private theorem received_of_failed_read (change : Change) (name : String) (a : Nat)
    (reply : Except Failure Value) (e : Failure) :
    Received change (.reading a) reply (afterFailure name a e).1 := by
  rcases afterFailure_cases name a e with ⟨he, ha, h⟩ | ⟨-, h⟩ <;> rw [h]
  · exact .readAgain he ha
  · exact .readFailed e

/-- **Going on from a reply.** -/
theorem received_receive (change : Change) (name : String) (phase : Phase)
    (reply : Except Failure Value) :
    Received change phase reply (phase.receive change name reply).1 := by
  cases phase with
  | finished outcome => exact .ended outcome reply
  | reading a =>
    cases reply with
    | error e => exact received_of_failed_read change name a _ e
    | ok document =>
      simp only [Phase.receive, Except.bind]
      cases hread : Policy.decode document with
      | error e => exact received_of_failed_read change name a _ e
      | ok current =>
        simp only [Phase.afterRead]
        cases hchanged : changed change current with
        | error e => exact received_of_failed_read change name a _ e
        | ok updated =>
          dsimp only
          by_cases hsame : updated.same current = true
          · rw [if_pos hsame]
            exact .unchanged hread hchanged hsame
          · rw [if_neg hsame]
            cases hfields : fieldsOf updated with
            | error e => exact .readFailed e
            | ok fields => exact .toWrite hread hchanged (Bool.eq_false_iff.mpr hsame) hfields
  | writing a fields =>
    cases reply with
    | error e =>
      simp only [Phase.receive, Except.bind]
      rcases afterFailure_cases name a e with ⟨he, ha, h⟩ | ⟨he, h⟩ <;> rw [h]
      · exact .writeAgain he ha
      · exact .writeFailed e he
    | ok document =>
      have hwritten : (Phase.receive change name (.writing a fields) (.ok document)).1 =
          .finished (Policy.decode document) := by
        simp only [Phase.receive, Except.bind]
        cases hstored : Policy.decode document with
        | ok stored => rfl
        | error e =>
          -- what cannot be read is no conflict, so there is no other attempt
          have hno := isConflict_of_isAnswer (Policy.isAnswer_of_decode hstored)
          simp [afterFailure, hno]
      rw [hwritten]
      exact .written document

/-! ### Every edit ends -/

/-- How many requests are left to an edit. -/
def Phase.budget : Phase → Nat
  | reading a => 2 * (maxAttempts - a) + 2
  | writing a _ => 2 * (maxAttempts - a) + 1
  | finished _ => 0

theorem Received.budget_lt {change : Change} {p q : Phase} {reply : Except Failure Value}
    (h : Received change p reply q) (hp : p.budget ≠ 0) : q.budget < p.budget := by
  cases h with
  | readAgain he ha | writeAgain he ha => simp only [Phase.budget]; omega
  | readFailed | unchanged | toWrite | writeFailed | written => simp [Phase.budget]
  | ended => exact absurd rfl hp

namespace Call

variable {σ : Type} [Service σ]

/-- A step makes the request that is due and goes on from its reply. -/
theorem step_of_action (call : Call) (w : World σ) (phase : Phase) {action : Action}
    (h : phase.action? = some action) :
    (call.step w phase).1.service = (Service.answer w.service
        ⟨call.collection, call.name, action, call.credentials⟩).1 ∧
      Received call.change phase (Service.answer w.service
        ⟨call.collection, call.name, action, call.credentials⟩).2 (call.step w phase).2 := by
  unfold step
  rw [h]
  exact ⟨rfl, received_receive call.change call.name phase _⟩

@[simp] theorem step_finished (call : Call) (w : World σ) (outcome : Except Failure Policy) :
    call.step w (.finished outcome) = (w, .finished outcome) := rfl

theorem steps_succ (call : Call) (n : Nat) (w : World σ) (phase : Phase) :
    call.steps (n + 1) w phase = call.steps n (call.step w phase).1 (call.step w phase).2 := rfl

/-- **What a step keeps, a run keeps.** -/
theorem steps_keeps {call : Call} {P : World σ → Phase → Prop}
    (hstep : ∀ w phase, P w phase → P (call.step w phase).1 (call.step w phase).2) (n : Nat)
    {w : World σ} {phase : Phase} (h : P w phase) :
    P (call.steps n w phase).1 (call.steps n w phase).2 := by
  induction n generalizing w phase with
  | zero => exact h
  | succ n ih => exact ih (hstep w phase h)

private theorem budget_step_lt (call : Call) (w : World σ) {phase : Phase}
    (h : phase.budget ≠ 0) : (call.step w phase).2.budget < phase.budget := by
  cases phase with
  | finished outcome => exact absurd rfl h
  | reading a => exact (call.step_of_action w (.reading a) rfl).2.budget_lt h
  | writing a fields => exact (call.step_of_action w (.writing a fields) rfl).2.budget_lt h

/-- **Every edit ends** when it has made the requests that are left to it. -/
theorem exists_finished_steps (call : Call) {n : Nat} (w : World σ) (phase : Phase)
    (h : phase.budget ≤ n) : ∃ outcome, (call.steps n w phase).2 = .finished outcome := by
  induction n generalizing w phase with
  | zero =>
    cases phase with
    | finished outcome => exact ⟨outcome, rfl⟩
    | _ => simp [Phase.budget] at h
  | succ n ih =>
    by_cases hp : phase.budget = 0
    -- an edit at its end stays there
    · refine ih _ _ (le_of_eq_of_le ?_ (Nat.zero_le n))
      cases phase with
      | finished outcome => rfl
      | _ => simp [Phase.budget] at hp
    · have hlt := call.budget_step_lt w hp
      rw [steps_succ]
      exact ih _ _ (by omega)

end Call

/-! ### Edits on a store -/

open Store (View)

/-- Where an edit stands on a store, from the view at its start: the view, and the phase. Until a
write is accepted, the view is that after some changes by others. -/
inductive Stands (change : Change) (name : String) (v : View) : View → Phase → Prop where
  /-- It is about to read. -/
  | reading (a n : Nat) : Stands change name v (View.takeEdit^[n] v) (.reading a)
  /-- It read, and is about to write. -/
  | writing {a j n : Nat} {current updated : Policy} {fields : List (Value × Value)} (hjn : j ≤ n)
    (hread : Policy.decode ((View.takeEdit^[j] v).current name) = .ok current)
    (hchanged : changed change current = .ok updated) (hfields : fieldsOf updated = .ok fields) :
    Stands change name v (View.takeEdit^[n] v) (.writing a fields)
  /-- It failed. -/
  | failed (n : Nat) (e : Failure) :
    Stands change name v (View.takeEdit^[n] v) (.finished (.error e))
  /-- It found nothing to write. -/
  | unchanged {n : Nat} {current updated : Policy}
    (hread : Policy.decode ((View.takeEdit^[n] v).current name) = .ok current)
    (hchanged : changed change current = .ok updated) (hsame : updated.same current = true) :
    Stands change name v (View.takeEdit^[n] v) (.finished (.ok current))
  /-- Its write was accepted, and the reply was read. -/
  | stored {j n : Nat} {current updated : Policy} {fields : List (Value × Value)} (hjn : j ≤ n)
    (hread : Policy.decode ((View.takeEdit^[j] v).current name) = .ok current)
    (hchanged : changed change current = .ok updated) (hfields : fieldsOf updated = .ok fields)
    (hetag :
      Store.carriesOther (Store.etagOf ((View.takeEdit^[n] v).current name)) fields = false) :
    Stands change name v ((View.takeEdit^[n] v).accept name fields)
      (.finished (Policy.decode ((View.takeEdit^[n] v).stored fields)))

private theorem Stands.step_reading {call : Call} {v : View} {w : World Store} {a n : Nat}
    (hanswer : w.service.writeAnswer = none) (hview : w.service.view = View.takeEdit^[n] v) :
    (call.step w (.reading a)).1.service.writeAnswer = none ∧
      Stands call.change call.name v (call.step w (.reading a)).1.service.view
        (call.step w (.reading a)).2 := by
  obtain ⟨hservice, hreceived⟩ := call.step_of_action w (.reading a) rfl
  obtain ⟨hview', hanswer', hreply⟩ := w.service.read_cases call.name
  have hanswered : Service.answer w.service
      ⟨call.collection, call.name, .getPolicy .null, call.credentials⟩ =
      w.service.read call.name := rfl
  rw [hanswered] at hservice hreceived
  rw [hview] at hview' hreply
  rw [hservice, hview']
  refine ⟨hanswer'.trans hanswer, ?_⟩
  generalize (w.service.read call.name).2 = reply at hreply hreceived
  generalize (call.step w (.reading a)).2 = q at hreceived
  have hdocument : ∀ document, reply = .ok document →
      document = (View.takeEdit^[n] v).current call.name := by
    rintro document rfl
    rcases hreply with h | ⟨e, h⟩
    · exact Except.ok.inj h
    · simp at h
  cases hreceived with
  | readAgain he ha => exact .reading (a + 1) n
  | readFailed e => exact .failed n e
  | unchanged hread hchanged hsame =>
    obtain rfl := hdocument _ rfl
    exact .unchanged hread hchanged hsame
  | toWrite hread hchanged hdiffers hfields =>
    obtain rfl := hdocument _ rfl
    exact .writing le_rfl hread hchanged hfields

private theorem Stands.step_writing {call : Call} {v : View} {w : World Store} {a j n : Nat}
    {current updated : Policy} {fields : List (Value × Value)}
    (hanswer : w.service.writeAnswer = none) (hview : w.service.view = View.takeEdit^[n] v)
    (hjn : j ≤ n) (hread : Policy.decode ((View.takeEdit^[j] v).current call.name) = .ok current)
    (hchanged : changed call.change current = .ok updated)
    (hfields : fieldsOf updated = .ok fields) :
    (call.step w (.writing a fields)).1.service.writeAnswer = none ∧
      Stands call.change call.name v (call.step w (.writing a fields)).1.service.view
        (call.step w (.writing a fields)).2 := by
  obtain ⟨hservice, hreceived⟩ := call.step_of_action w (.writing a fields) rfl
  have hwritten := w.service.written_write call.name fields hanswer
  have hanswered : Service.answer w.service
      ⟨call.collection, call.name, .setPolicy fields, call.credentials⟩ =
      w.service.write call.name fields := rfl
  rw [hanswered] at hservice hreceived
  rw [hservice]
  rw [hview] at hwritten
  generalize w.service.write call.name fields = result at hwritten hreceived
  generalize (call.step w (.writing a fields)).2 = q at hreceived
  cases hwritten with
  | failed m e hview' hanswer' =>
    refine ⟨hanswer', ?_⟩
    rw [hview', ← Function.iterate_add_apply]
    cases hreceived with
    | writeAgain he ha => exact .reading (a + 1) (m + n)
    | writeFailed => exact .failed (m + n) e
  | accepted m hetag hview' hanswer' =>
    refine ⟨hanswer', ?_⟩
    rw [← Function.iterate_add_apply] at hview' hetag hreceived
    rw [hview']
    cases hreceived with
    | written => exact .stored (by omega) hread hchanged hfields hetag

/-- **A step of an edit** leaves it standing somewhere. -/
theorem Stands.step {call : Call} {v : View} {w : World Store} {phase : Phase}
    (h : w.service.writeAnswer = none ∧ Stands call.change call.name v w.service.view phase) :
    (call.step w phase).1.service.writeAnswer = none ∧
      Stands call.change call.name v (call.step w phase).1.service.view (call.step w phase).2 := by
  obtain ⟨hanswer, h⟩ := h
  generalize hview : w.service.view = u at h
  cases h with
  | reading a n => exact Stands.step_reading hanswer hview
  | writing hjn hread hchanged hfields =>
    exact Stands.step_writing hanswer hview hjn hread hchanged hfields
  | failed n e => exact ⟨hanswer, hview ▸ .failed n e⟩
  | unchanged hread hchanged hsame => exact ⟨hanswer, hview ▸ .unchanged hread hchanged hsame⟩
  | stored hjn hread hchanged hfields hetag =>
    exact ⟨hanswer, hview ▸ .stored hjn hread hchanged hfields hetag⟩

/-- An edit that gave a policy found it unchanged, or read it from what was stored. -/
theorem Stands.cases_of_ok {change : Change} {name : String} {v u : View} {p : Policy}
    (h : Stands change name v u (.finished (.ok p))) :
    (∃ n updated, u = View.takeEdit^[n] v ∧ Policy.decode (u.current name) = .ok p ∧
        changed change p = .ok updated ∧ updated.same p = true) ∨
      ∃ j n current updated fields, j ≤ n ∧
        Policy.decode ((View.takeEdit^[j] v).current name) = .ok current ∧
        changed change current = .ok updated ∧ fieldsOf updated = .ok fields ∧
        Store.carriesOther (Store.etagOf ((View.takeEdit^[n] v).current name)) fields = false ∧
        u = (View.takeEdit^[n] v).accept name fields ∧
        Policy.decode ((View.takeEdit^[n] v).stored fields) = .ok p := by
  generalize hphase : Phase.finished (.ok p) = phase at h
  cases h with
  | reading | writing | failed => simp at hphase
  | @unchanged n current updated hread hchanged hsame =>
    obtain rfl : p = current := by simpa using hphase
    exact .inl ⟨n, updated, rfl, hread, hchanged, hsame⟩
  | @stored j n current updated fields hjn hread hchanged hfields hetag =>
    have hstored := Phase.finished.inj hphase
    exact .inr ⟨j, n, current, updated, fields, hjn, hread, hchanged, hfields, hetag, rfl,
      hstored.symm⟩

end Edit

/-- **What an edit comes to on a store.** It leaves no trace but a write of its own that was
accepted. -/
theorem World.modify_stands (w : World Store) (credentials : Option Credentials) (name : String)
    (change : Change) (hanswer : w.service.writeAnswer = none) :
    Edit.Stands change name w.service.view (w.modify credentials name change).1.service.view
      (.finished (w.modify credentials name change).2) := by
  unfold World.modify
  cases Collection.owning name with
  | error e => exact .failed 0 e
  | ok collection =>
    dsimp only
    generalize hcall : (⟨collection, name, credentials, change⟩ : Edit.Call) = call
    have hstart : Edit.Stands call.change call.name w.service.view
        (w.note [Edit.readLine name]).service.view (.reading 1) := .reading 1 0
    have hend := (Edit.Call.steps_keeps (P := fun (u : World Store) phase =>
      u.service.writeAnswer = none ∧
        Edit.Stands call.change call.name w.service.view u.service.view phase)
      (fun _ _ => Edit.Stands.step) (2 * Edit.maxAttempts) (w := w.note [Edit.readLine name])
      ⟨hanswer, hstart⟩).2
    obtain ⟨outcome, hfinished⟩ := call.exists_finished_steps (w.note [Edit.readLine name])
      (.reading 1) (show Edit.Phase.budget (.reading 1) ≤ 2 * Edit.maxAttempts from le_rfl)
    rw [hfinished] at hend ⊢
    subst hcall
    exact hend

end AccessPolicy
