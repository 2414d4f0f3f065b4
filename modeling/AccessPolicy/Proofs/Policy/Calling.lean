import AccessPolicy.Proofs.Policy.Reading
import AccessPolicy.Service.Access

/-!
# Changes that only call a builder

The calls of a builder fail with causes of their own. None of them is an answer of a service, so a
change that does nothing but call a builder never looks like a write that was refused.

* `Builder.Call.Local`: calls that ask nothing of a service;
* `Builder.Calling`: what such calls in turn come to;
* `Builder.Calling.isAnswer_of_error`: their failures are no answers;
* `Handle.calling_granting`, `Handle.calling_revoking`: changes that operations make are such calls.
-/

namespace AccessPolicy

open Failure (isAnswer_of_eq)

namespace Supply

/-- A reading that fails does so at an item that fails, or by itself. -/
private theorem isAnswer_of_read {s : Supply} (hs : ∀ e, .error e ∈ s → e.isAnswer = false)
    {ms : Members} {missing : Bool} {e : Failure} (h : s.read ms missing = .error e) :
    e.isAnswer = false := by
  induction s generalizing ms missing with
  | nil => simp [read] at h
  | cons item rest ih =>
    have hrest : ∀ e, .error e ∈ rest → e.isAnswer = false := fun e he => hs e (by simp [he])
    rcases item with f | _ | i
    · obtain rfl : f = e := by simpa [read] using h
      exact hs f (by simp)
    · exact ih hrest (by simpa [read] using h)
    · rw [read] at h
      split at h
      · exact ih hrest h
      · exact isAnswer_of_eq h rfl

theorem isAnswer_of_collect {s : Supply} (hs : ∀ e, .error e ∈ s → e.isAnswer = false)
    {e : Failure} (h : s.collect = .error e) : e.isAnswer = false := by
  unfold collect at h
  split at h
  · next hread => exact isAnswer_of_eq h (isAnswer_of_read hs hread)
  · exact isAnswer_of_eq h rfl
  · simp at h

end Supply

namespace Builder

/-- A call that asks nothing of a service: no supply of identities that it reads fails with an
answer of one. -/
def Call.Local : Call → Prop
  | .setBindings (some gs) => ∀ r s, (r, some s) ∈ gs → ∀ e, .error e ∈ s → e.isAnswer = false
  | _ => True

private theorem isAnswer_of_readGrants {gs : Grants}
    (hgs : ∀ r s, (r, some s) ∈ gs → ∀ e, .error e ∈ s → e.isAnswer = false) {bs : Bindings}
    {e : Failure} (h : readGrants gs bs = .error e) : e.isAnswer = false := by
  induction gs generalizing bs with
  | nil => simp [readGrants] at h
  | cons g rest ih =>
    have hrest : ∀ r s, (r, some s) ∈ rest → ∀ e, .error e ∈ s → e.isAnswer = false :=
      fun r s hs => hgs r s (by simp [hs])
    obtain ⟨role, supply⟩ := g
    cases role with
    | none => exact isAnswer_of_eq h rfl
    | some r =>
      cases supply with
      | none => exact isAnswer_of_eq h rfl
      | some s =>
        rw [readGrants] at h
        split at h
        · next hcollect =>
          exact isAnswer_of_eq h (Supply.isAnswer_of_collect (hgs (some r) s (by simp)) hcollect)
        · exact ih hrest h
        · split at h
          · exact ih hrest h
          · exact isAnswer_of_eq h rfl

private theorem isAnswer_of_withdraw {ids : List (Option Identity)} {ms : Members} {e : Failure}
    (h : (withdraw ms ids).2 = some e) : e.isAnswer = false := by
  induction ids generalizing ms with
  | nil => simp [withdraw] at h
  | cons i ids ih =>
    cases i with
    | none => exact ih (by simpa [withdraw] using h)
    | some i =>
      rw [withdraw] at h
      split at h
      · exact ih h
      · obtain rfl := Option.some.inj h
        rfl

private theorem isAnswer_of_removeIdentity {b : Builder} {role : Option Role}
    {ids : List (Option Identity)} {e : Failure} (h : (b.removeIdentity role ids).2 = some e) :
    e.isAnswer = false := by
  unfold removeIdentity at h
  split at h
  · obtain rfl := Option.some.inj h
    rfl
  · split at h
    · simp at h
    · split at h
      · obtain rfl := Option.some.inj h
        rfl
      · split at h
        · simp at h
        · split at h
          · next hwithdraw =>
            obtain rfl := Option.some.inj h
            exact isAnswer_of_withdraw (congrArg Prod.snd hwithdraw)
          · simp at h
          · simp at h

private theorem isAnswer_of_settle {b : Builder} {r : Except Failure Builder}
    (hr : ∀ e, r = .error e → e.isAnswer = false) {e : Failure} (h : (b.settle r).2 = some e) :
    e.isAnswer = false := by
  cases r with
  | ok b' => simp [settle] at h
  | error f =>
    obtain rfl := Option.some.inj h
    exact hr f rfl

/-- **Calls that fail.** The failure of a call is no answer of a service. -/
theorem Call.Local.isAnswer_of_apply {c : Call} (hc : c.Local) {b : Builder} {e : Failure}
    (h : (b.apply c).2 = some e) : e.isAnswer = false := by
  cases c with
  | addIdentity role ids =>
    refine isAnswer_of_settle (fun e he => ?_) h
    have hids : ∀ e, .error e ∈ ids.map (Except.ok (ε := Failure)) → e.isAnswer = false := by simp
    unfold Builder.addIdentity at he
    split at he
    · exact isAnswer_of_eq he rfl
    · split at he
      · exact isAnswer_of_eq he rfl
      · split at he
        · next hcollect => exact isAnswer_of_eq he (Supply.isAnswer_of_collect hids hcollect)
        · split at he
          · simp at he
          · exact isAnswer_of_eq he rfl
  | removeIdentity role ids => exact isAnswer_of_removeIdentity h
  | removeRole role =>
    refine isAnswer_of_settle (fun e he => ?_) h
    unfold Builder.removeRole at he
    split at he
    · simp at he
    · split at he
      · simp at he
      · split at he
        · simp at he
        · exact isAnswer_of_eq he rfl
  | setBindings grants =>
    refine isAnswer_of_settle (fun e he => ?_) h
    unfold Builder.setBindings at he
    split at he
    · exact isAnswer_of_eq he rfl
    · split at he
      · next hread => exact isAnswer_of_eq he (isAnswer_of_readGrants hc hread)
      · simp at he
  | setEtag etag => simp [apply] at h
  | setVersion version => simp [apply] at h

/-- What calls of a builder come to. Which call is next may depend on the builder; a call that fails
ends the work, or is passed over. -/
inductive Calling : Builder → Except Failure Builder → Prop where
  /-- No more calls are made. -/
  | done (b : Builder) : Calling b (.ok b)
  /-- A call fails, and so does all. -/
  | stopped {b : Builder} {c : Call} {e : Failure} (hc : c.Local) (h : (b.apply c).2 = some e) :
    Calling b (.error e)
  /-- A call is made, and others follow. -/
  | called {b : Builder} {c : Call} {result : Except Failure Builder} (hc : c.Local)
    (h : Calling (b.apply c).1 result) : Calling b result

/-- Calls of a builder never fail with an answer of a service. -/
theorem Calling.isAnswer_of_error {b : Builder} {e : Failure} (h : Calling b (.error e)) :
    e.isAnswer = false := by
  generalize hresult : (Except.error e : Except Failure Builder) = result at h
  induction h with
  | done b => simp at hresult
  | stopped hc hfails => exact isAnswer_of_eq hresult.symm (hc.isAnswer_of_apply hfails)
  | called _ _ ih => exact ih hresult

end Builder

open Builder in
/-- Granting a role to members is one call. -/
theorem Handle.calling_granting (r : Role) (ids : List Identity) (b : Builder) :
    Calling b (granting r ids b) := by
  have hlocal : (Call.addIdentity (some r) (ids.map some)).Local := trivial
  unfold granting
  cases hadd : b.addIdentity (some r) (ids.map some) with
  | error e => exact .stopped hlocal (by rw [apply, hadd]; rfl)
  | ok b' =>
    have hafter : (b.apply (.addIdentity (some r) (ids.map some))).1 = b' := by
      rw [apply, hadd]
      rfl
    exact .called hlocal (hafter ▸ .done b')

open Builder in
/-- Revoking a role from members is one call. -/
theorem Handle.calling_revoking (r : Role) (ids : List Identity) (b : Builder) :
    Calling b (revoking r ids b) := by
  have hlocal : (Call.removeIdentity (some r) (ids.map some)).Local := trivial
  unfold revoking
  split
  · next b' hremove =>
    have hafter : (b.apply (.removeIdentity (some r) (ids.map some))).1 = b' := by
      rw [apply, hremove]
    exact .called hlocal (hafter ▸ .done b')
  · next b' e hremove => exact .stopped hlocal (by rw [apply, hremove])

end AccessPolicy
