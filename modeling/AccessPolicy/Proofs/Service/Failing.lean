import AccessPolicy.Proofs.Policy.Legible
import AccessPolicy.Proofs.Service.PostState

/-!
# Operations that fail

An operation that writes a policy reads the reply before it is done. So it can fail in two ways:
before anything of its own was stored, or after. The second happens to exactly those policies that
are not legible, since what a write sends is not checked before it is sent. An empty address is
enough.

* `WriteCall.run_leaves`: what an operation leaves in a store, and when it can fail after its write;
* `WriteCall.empty_address_stored`: an operation that fails, and leaves its policy in the store.
-/

namespace AccessPolicy

open Store (View)

/-- An operation that writes the policy of a resource. -/
inductive WriteCall where
  /-- Stores a policy. -/
  | replace (p : Policy)
  /-- Grants a role to members. -/
  | add (role : RoleArgument) (members : List MemberArgument)
  /-- Revokes a role from members. -/
  | remove (role : RoleArgument) (members : List MemberArgument)

namespace WriteCall

/-- Does the operation. -/
def run {σ : Type} [Service σ] (c : WriteCall) (h : Handle) (w : World σ)
    (given : Option Credentials) : World σ × Except Failure Policy :=
  match c with
  | replace p => h.replacePolicy w given p
  | add role members => h.addBinding w given role members
  | remove role members => h.removeBinding w given role members

/-- Whether what the operation writes can be read back: the policy to be stored is legible, or the
role and the identities that are granted are. What a revocation leaves always can. -/
def Legible : WriteCall → Prop
  | replace p => p.Legible
  | add role members => ∀ r ids, role.resolve = .ok r →
      MemberArgument.resolveAll members = .ok ids → r.Legible ∧ ∀ i ∈ ids, i.Legible
  | remove _ _ => True

/-- Whether a policy is of the operation's own making: the one that is given, or one that its change
of members makes of another. -/
def Own : WriteCall → Policy → Prop
  | replace p, q => q = p
  | add role members, q => ∃ r ids p, role.resolve = .ok r ∧
      MemberArgument.resolveAll members = .ok ids ∧ Edit.changed (Handle.granting r ids) p = .ok q
  | remove role members, q => ∃ r ids p, role.resolve = .ok r ∧
      MemberArgument.resolveAll members = .ok ids ∧ Edit.changed (Handle.revoking r ids) p = .ok q

/-- What an operation leaves, as seen by requests, and what it gives: nothing of its own, or a
policy of its own under a new tag. -/
inductive Leaves (c : WriteCall) (name : String) (before : View) :
    View → Except Failure Policy → Prop where
  /-- Nothing of its own was stored. -/
  | nothing (outcome : Except Failure Policy) : Leaves c name before before outcome
  /-- A policy of its own was stored. The operation gives a policy exactly if it is legible. -/
  | policy {p : Policy} {fields : List (Value × Value)} {outcome : Except Failure Policy}
    (hown : c.Own p) (hfields : Edit.fieldsOf p = .ok fields)
    (houtcome : (∃ q, outcome = .ok q) ↔ c.Legible) :
    Leaves c name before (before.accept name fields) outcome

/-- The reply to an accepted write is read exactly if the policy written is legible. -/
private theorem exists_decode_stored_iff {p : Policy} {fields : List (Value × Value)}
    (h : Edit.fieldsOf p = .ok fields) (v : View) :
    (∃ q, Policy.decode (v.stored fields) = .ok q) ↔ p.Legible :=
  (Edit.renders_of_fieldsOf h).exists_decode_putField_iff _

private theorem leaves_setPolicy (w : World Store) (credentials : Option Credentials)
    (name : String) (p : Policy) (hanswer : w.service.writeAnswer = none) :
    ∃ n, (replace p).Leaves name (View.takeEdit^[n] w.service.view)
      (w.setPolicy credentials name p).1.service.view (w.setPolicy credentials name p).2 := by
  unfold World.setPolicy
  cases Collection.owning name with
  | error e => exact ⟨0, .nothing _⟩
  | ok collection =>
    dsimp only
    cases hfields : Edit.fieldsOf p with
    | error e => exact ⟨0, .nothing _⟩
    | ok fields =>
      have hwritten := w.service.written_write name fields hanswer
      have hsend : ((w.note [Edit.writeLine name p.etag]).send
          ⟨collection, name, .setPolicy fields, credentials⟩).1.service =
          (w.service.write name fields).1 := rfl
      have hreply : ((w.note [Edit.writeLine name p.etag]).send
          ⟨collection, name, .setPolicy fields, credentials⟩).2 =
          (w.service.write name fields).2 := rfl
      dsimp only
      rw [hsend, hreply]
      generalize w.service.write name fields = result at hwritten
      cases hwritten with
      | failed n e hview => exact ⟨n, hview ▸ .nothing _⟩
      | accepted n hetag hview =>
        exact ⟨n, hview ▸ .policy rfl hfields (exists_decode_stored_iff hfields _)⟩

/-- An edit leaves what its change makes of a policy that was read, if anything. -/
private theorem leaves_modify (c : WriteCall) (w : World Store) (credentials : Option Credentials)
    (name : String) (change : Change) (hanswer : w.service.writeAnswer = none)
    (hchange : ∀ p q, p.bindings.Sound → p.Legible → Edit.changed change p = .ok q →
      c.Own q ∧ (q.Legible ↔ c.Legible)) :
    ∃ n, c.Leaves name (View.takeEdit^[n] w.service.view)
      (w.modify credentials name change).1.service.view (w.modify credentials name change).2 := by
  have hstands := w.modify_stands credentials name change hanswer
  generalize (w.modify credentials name change).1.service.view = after at hstands ⊢
  generalize (w.modify credentials name change).2 = outcome at hstands ⊢
  generalize hphase : Edit.Phase.finished outcome = phase at hstands
  cases hstands with
  | reading | writing => simp at hphase
  | failed n e => exact ⟨n, .nothing _⟩
  | @unchanged n => exact ⟨n, .nothing _⟩
  | @stored j n current updated fields hjn hread hchanged hfields hetag =>
    obtain rfl := Edit.Phase.finished.inj hphase
    obtain ⟨hown, hlegible⟩ := hchange current updated (Policy.decode_sound hread)
      (Policy.legible_of_decode hread) hchanged
    exact ⟨n, .policy hown hfields ((exists_decode_stored_iff hfields _).trans hlegible)⟩

/-- A change of members leaves what its change makes. -/
private theorem leaves_changeBinding (c : WriteCall) (h : Handle) (w : World Store)
    (given : Option Credentials) (role : RoleArgument) (members : List MemberArgument)
    (change : Role → List Identity → Change) (hanswer : w.service.writeAnswer = none)
    (hchange : ∀ r ids, role.resolve = .ok r → MemberArgument.resolveAll members = .ok ids →
      ids ≠ [] → ∀ p q, p.bindings.Sound → p.Legible → Edit.changed (change r ids) p = .ok q →
        c.Own q ∧ (q.Legible ↔ c.Legible)) :
    ∃ n, c.Leaves h.resource.fullName (View.takeEdit^[n] w.service.view)
      (h.changeBinding w given role members change).1.service.view
      (h.changeBinding w given role members change).2 := by
  unfold Handle.changeBinding
  split
  · exact ⟨0, .nothing _⟩
  · next hmembers =>
    split
    · exact ⟨0, .nothing _⟩
    · next r hrole =>
      split
      · exact ⟨0, .nothing _⟩
      · next ids hids =>
        have hne : ids ≠ [] := by
          rintro rfl
          have hlength := MemberArgument.length_of_resolveAll hids
          exact hmembers (by simpa using hlength.symm)
        obtain ⟨w', hservice, ⟨e, hrun⟩ | ⟨creds, hrun⟩⟩ := h.withCredentials_cases w given
          fun w c => w.modify c h.resource.fullName (change r ids)
        · rw [hrun]
          exact ⟨0, hservice ▸ .nothing _⟩
        · rw [hrun, ← hservice]
          exact leaves_modify c w' creds _ _ (hservice ▸ hanswer) (hchange r ids hrole hids hne)

/-- **What an operation leaves in a store.** Either all is as others left it, or the policy that the
operation wrote is stored; and then the operation fails exactly if that policy is not legible. -/
theorem run_leaves (c : WriteCall) (h : Handle) (w : World Store) (given : Option Credentials)
    (hanswer : w.service.writeAnswer = none) :
    ∃ n, c.Leaves h.resource.fullName (w.service.passEdits n).view
      (c.run h w given).1.service.view (c.run h w given).2 := by
  simp only [Store.view_passEdits]
  cases c with
  | replace p =>
    obtain ⟨w', hservice, ⟨e, hrun⟩ | ⟨creds, hrun⟩⟩ := h.withCredentials_cases w given
      fun w c => w.setPolicy c h.resource.fullName p
    · rw [run, Handle.replacePolicy, hrun]
      exact ⟨0, hservice ▸ .nothing _⟩
    · rw [run, Handle.replacePolicy, hrun, ← hservice]
      exact leaves_setPolicy w' creds _ p (hservice ▸ hanswer)
  | add role members =>
    refine leaves_changeBinding (add role members) h w given role members Handle.granting hanswer ?_
    intro r ids hrole hids hne p q hp hl hchanged
    refine ⟨⟨r, ids, p, hrole, hids, hchanged⟩, ?_⟩
    rw [Handle.legible_changed_granting_iff hp hl hne hchanged]
    constructor
    · intro hl' r' ids' hr' hids'
      obtain rfl := Except.ok.inj (hrole.symm.trans hr')
      obtain rfl := Except.ok.inj (hids.symm.trans hids')
      exact hl'
    · exact fun hc => hc r ids hrole hids
  | remove role members =>
    refine leaves_changeBinding (remove role members) h w given role members Handle.revoking hanswer
      ?_
    intro r ids hrole hids _ p q hp hl hchanged
    exact ⟨⟨r, ids, p, hrole, hids, hchanged⟩,
      iff_of_true (Handle.legible_changed_revoking hp hl hchanged) trivial⟩

/-- A replacement that is refused, since someone else changed the document just before the write:
the change of the other is all that is left. -/
theorem run_leaves_overtaken :
    let c := replace ⟨.roles, [(Role.viewer, [⟨.user, .text "ann@example.com"⟩])],
      .text "etag-0", .int 1⟩
    let h : Handle := { resource := ⟨.projects, .text "p"⟩, stored := some "me" }
    let binding := .ofFields [("role", .text "roles/owner"),
      ("members", .list [.text "user:bob@example.com"])]
    let w : World Store := { service := { edits := [("projects/p", binding)] } }
    (c.run h w none).2 = .error Store.conflict ∧
      (c.run h w none).1.service.current "projects/p" = .ofFields [("version", .int 1),
        ("etag", .text "etag-1"), ("bindings", .list [binding])] ∧
      ∃ n, c.Leaves h.resource.fullName (w.service.passEdits n).view
        (c.run h w none).1.service.view (c.run h w none).2 :=
  ⟨by with_unfolding_all rfl, by with_unfolding_all rfl, run_leaves _ _ _ _ rfl⟩

/-- **An empty address.** A grant to a user without an address fails, since the member string
`user:` cannot be read; but the grant is in the store, where no one else changed anything. -/
theorem empty_address_stored :
    let c := add (.named (.text "viewer")) [.identity ⟨.user, .text ""⟩]
    let h : Handle := { resource := ⟨.projects, .text "p"⟩, stored := some "me" }
    let w : World Store := { service := {} }
    (c.run h w none).2 = .error (.rejected (.malformedMember "user:")) ∧
      (c.run h w none).1.service.current "projects/p" = .ofFields [
        ("bindings", .list [.ofFields [("role", .text "roles/viewer"),
          ("members", .list [.text "user:"])]]),
        ("etag", .text "etag-1"), ("version", .int 1)] ∧
      ∀ n, (w.service.passEdits n).current "projects/p" = Store.fresh := by
  refine ⟨by with_unfolding_all rfl, by with_unfolding_all rfl, fun n => ?_⟩
  have hview := Store.view_passEdits n {}
  rw [Function.iterate_fixed (show View.takeEdit (Store.view {}) = Store.view {} from rfl)] at hview
  exact congrFun (congrArg View.current hview) "projects/p"

end WriteCall

end AccessPolicy
