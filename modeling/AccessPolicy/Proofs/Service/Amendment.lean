import AccessPolicy.Proofs.Policy.Writing
import AccessPolicy.Service.Access

/-!
# Amendments

An `Amendment` is what is asked for when a role is granted to members or revoked from them: a role
by its name, and member strings that can be read. On a policy with sound bindings the change that it
makes does not fail, and it is known exactly who holds what afterwards. From a policy that a service
sent it makes one that can be sent there and back.

* `Amendment.changed_eq`, `Amendment.holds_apply`: the change that an amendment makes, and who holds
  what after it;
* `Amendment.run_eq`: what is done for an amendment;
* `Policy.Sent.exists_decode_stored`: what a service stores of a canonical policy reads back.
-/

namespace AccessPolicy

/-! ### Stored documents -/

namespace Edit

theorem encode_of_fieldsOf {p : Policy} {fields : List (Value × Value)}
    (h : fieldsOf p = .ok fields) : p.encode = .ok (.map fields) := by
  unfold fieldsOf at h
  split at h
  · simp at h
  · next hencode =>
    obtain rfl := Except.ok.inj h
    exact hencode
  · simp at h

theorem renders_of_fieldsOf {p : Policy} {fields : List (Value × Value)}
    (h : fieldsOf p = .ok fields) : p.Renders fields := by
  obtain ⟨fields', hfields, hrenders⟩ := Policy.renders_of_encode (encode_of_fieldsOf h)
  obtain rfl : fields = fields' := by simpa using hfields
  exact hrenders

end Edit

namespace Policy

/-- A policy as it is read from a service: sound and canonical bindings, and a version that is an
integer or null. -/
structure Sent (p : Policy) : Prop where
  /-- The bindings are sound. -/
  sound : p.bindings.Sound
  /-- The bindings are canonical. -/
  canonical : p.bindings.Canonical
  /-- The version is null or an integer. -/
  version : p.version = .null ∨ ∃ n, p.version = .int n

theorem sent_of_decode {fields : List (Value × Value)} (hjson : Value.fieldsJson fields = true)
    {p : Policy} (h : decode (.map fields) = .ok p) : p.Sent where
  sound := decode_sound h
  canonical := decode_canonical hjson h
  version := decodeVersion_cases (decode_map_eq_ok_iff.mp h).2.1

/-- The document of such a policy is one that a service can send. -/
theorem Sent.fieldsJson {p : Policy} (h : p.Sent) (hetag : p.etag.isJson = true)
    {fields : List (Value × Value)} (hfields : Edit.fieldsOf p = .ok fields) :
    Value.fieldsJson fields = true := by
  have hversion : p.version.isJson = true := by
    rcases h.version with hv | ⟨n, hv⟩ <;> rw [hv] <;> rfl
  have hroles : ∀ e ∈ p.bindings, ∃ s, e.1.name = .text s := fun e he =>
    (h.canonical e he).1.imp fun _ hs => hs.1
  simpa [Value.isJson] using
    isJson_of_encode (Edit.encode_of_fieldsOf hfields) hroles hetag hversion

/-- **Stored documents.** What a service stores of such a policy, under a new tag, reads back with
the same bindings. -/
theorem Sent.exists_decode_stored {p : Policy} (h : p.Sent) {fields : List (Value × Value)}
    (hfields : Edit.fieldsOf p = .ok fields) (etag : Value) :
    ∃ bs : Bindings, decode (.map (Value.putField "etag" etag fields)) =
      .ok ⟨.roles, bs, etag, p.version⟩ ∧ bs.same p.bindings = true := by
  have hrenders := Edit.renders_of_fieldsOf hfields
  obtain ⟨bs, hdecode, hsame⟩ := hrenders.decode_of_canonical h.sound h.canonical h.version
  refine ⟨bs, decode_putField_etag.mpr ⟨rfl, ?_⟩, hsame⟩
  rw [hrenders.field_etag]
  exact hdecode

end Policy

theorem Policy.Renders.field?_etag_of_text {p : Policy} {fields : List (Value × Value)}
    (h : p.Renders fields) {t : String} (ht : p.etag = .text t) :
    Value.field? "etag" fields = some (.text t) := by
  rw [h.etag, ht]
  rfl

/-- A document that carries a text as its tag is accepted only where that text is the tag. -/
theorem Store.eq_text_of_carriesOther {fields : List (Value × Value)} {t : String}
    (h : Value.field? "etag" fields = some (.text t)) {etag : Value}
    (hetag : carriesOther etag fields = false) : etag = .text t := by
  simpa [carriesOther, h, Policy.sameField, Value.same_text_left] using hetag

/-! ### Amendments -/

/-- As many identities are read as are given. -/
theorem MemberArgument.length_of_resolveAll {members : List MemberArgument} {ids : List Identity}
    (h : resolveAll members = .ok ids) : ids.length = members.length := by
  induction members generalizing ids with
  | nil =>
    obtain rfl := Except.ok.inj h
    rfl
  | cons m rest ih =>
    rw [resolveAll] at h
    split at h
    · simp at h
    · split at h
      · simp at h
      · next his =>
        obtain rfl := Except.ok.inj h
        simp [ih his]

/-- Whether an amendment grants a role or revokes it. -/
inductive Amendment.Kind where
  /-- It grants a role. -/
  | grant
  /-- It revokes a role. -/
  | revoke

/-- A role by its name and members by their member strings, which can be read, and whether the role
is granted to the members or revoked from them. -/
structure Amendment where
  /-- Whether the role is granted or revoked. -/
  kind : Amendment.Kind
  /-- The name of the role, bare or full. -/
  name : String
  /-- The member strings. -/
  members : List String
  /-- The identities that the member strings denote. -/
  ids : List Identity
  /-- At least one member is named. -/
  members_ne_nil : members ≠ []
  /-- The member strings can be read. -/
  resolved : MemberArgument.resolveAll (members.map fun m => .member (.text m)) = .ok ids

namespace Amendment

variable (a : Amendment)

/-- The role that is named. -/
def role : Role := { name := .text (Role.fullName a.name) }

theorem role_full : a.role.Full := ⟨_, rfl, Role.slash_mem_fullName a.name⟩

private theorem ids_of_resolveAll {members : List String} {ids : List Identity}
    (h : MemberArgument.resolveAll (members.map fun m => .member (.text m)) = .ok ids) :
    ∀ i ∈ ids, i.Canonical := by
  induction members generalizing ids with
  | nil =>
    obtain rfl := Except.ok.inj h
    simp
  | cons m rest ih =>
    rw [List.map_cons, MemberArgument.resolveAll] at h
    split at h
    · simp at h
    · next i hi =>
      split at h
      · simp at h
      · next is his =>
        obtain rfl := Except.ok.inj h
        have hparse : Identity.parse m = .ok i := by
          cases hp : Identity.parse m <;>
            simp_all [MemberArgument.resolve, Identity.ofValue, Except.mapError]
        simpa using ⟨Identity.canonical_of_parse hparse, ih his⟩

theorem ids_canonical : ∀ i ∈ a.ids, i.Canonical := ids_of_resolveAll a.resolved

theorem ids_hashable : ∀ i ∈ a.ids, i.hashable = true := fun i hi =>
  (a.ids_canonical i hi).textual.hashable

theorem ids_ne_nil : a.ids ≠ [] := by
  have hlength := MemberArgument.length_of_resolveAll a.resolved
  intro hnil
  rw [hnil, List.length_map] at hlength
  exact a.members_ne_nil (List.length_eq_zero_iff.mp hlength.symm)

/-- The change that is made. -/
def change : Change :=
  match a.kind with
  | .grant => Handle.granting a.role a.ids
  | .revoke => Handle.revoking a.role a.ids

/-- The policy that the amendment makes of another. -/
def apply (p : Policy) : Policy :=
  { p with bindings := match a.kind with
    | .grant => p.bindings.grant a.role (Members.union [] a.ids)
    | .revoke => p.bindings.revoke a.role a.ids }

/-- Who holds what after the amendment, in terms of who held what before: a granted role is held by
the members as well, a revoked one by others only, and all other roles are held as before. -/
def After (holds : Role → Identity → Prop) (r : Role) (i : Identity) : Prop :=
  match a.kind with
  | .grant => holds r i ∨ a.role.same r = true ∧ Members.has a.ids i = true
  | .revoke => holds r i ∧ ¬ (a.role.same r = true ∧ Members.has a.ids i = true)

/-- **The change does not fail** on a policy with sound bindings. -/
theorem changed_eq {p : Policy} (h : p.bindings.Sound) :
    Edit.changed a.change p = .ok (a.apply p) := by
  have hr := a.role_full.hashable
  rw [Edit.changed, Policy.toBuilder_of_sound h]
  unfold change apply
  cases a.kind with
  | grant =>
    simp only [Handle.granting, Builder.addIdentity_of_hashable hr a.ids_hashable a.ids_ne_nil]
    rfl
  | revoke =>
    simp only [Handle.revoking,
      Builder.removeIdentity_of_all_hashable hr a.ids_hashable a.ids_ne_nil]
    rfl

theorem apply_sound {p : Policy} (h : p.bindings.Sound) : (a.apply p).bindings.Sound := by
  have hr := a.role_full.hashable
  unfold apply
  cases a.kind with
  | grant =>
    exact h.grant hr (Members.Sound.union a.ids_hashable Members.Sound.nil).hashable
      (Bindings.union_ne_nil (.inr a.ids_ne_nil))
  | revoke => exact h.revoke hr a.ids

theorem apply_canonical {p : Policy} (h : p.bindings.Canonical) :
    (a.apply p).bindings.Canonical := by
  unfold apply
  cases a.kind with
  | grant =>
    refine h.grant a.role_full fun i hi => a.ids_canonical i ?_
    exact (Members.mem_union hi).resolve_left (by simp)
  | revoke => exact h.revoke a.role_full a.ids

theorem apply_sent {p : Policy} (h : p.Sent) : (a.apply p).Sent :=
  ⟨a.apply_sound h.sound, a.apply_canonical h.canonical, h.version⟩

/-- **Who holds what after an amendment.** -/
theorem holds_apply {p : Policy} (h : p.bindings.Sound) (r : Role) (i : Identity) :
    (a.apply p).bindings.Holds r i ↔ a.After p.bindings.Holds r i := by
  have hr := a.role_full.hashable
  unfold apply After
  cases a.kind with
  | grant =>
    have hhashable := (Members.Sound.union a.ids_hashable Members.Sound.nil).hashable
    simp only [Bindings.holds_grant h.apart hr hhashable, Members.has_union_nil a.ids_hashable]
  | revoke => simp only [Bindings.holds_revoke h.apart hr a.ids_hashable]

/-- An amendment takes policies with the same bindings to policies with the same bindings. -/
theorem apply_same {p q : Policy} (hp : p.bindings.Sound) (hq : q.bindings.Sound)
    (h : p.bindings.same q.bindings = true) :
    (a.apply p).bindings.same (a.apply q).bindings = true := by
  rw [Bindings.same_iff_holds hp hq] at h
  rw [Bindings.same_iff_holds (a.apply_sound hp) (a.apply_sound hq)]
  intro r i
  have hholds : p.bindings.Holds = q.bindings.Holds := by
    funext r i
    exact propext (h r i)
  rw [a.holds_apply hp, a.holds_apply hq, hholds]

variable {σ : Type} [Service σ]

/-- The operation that is called for the amendment. -/
def run (h : Handle) (w : World σ) (given : Option Credentials) : World σ × Except Failure Policy :=
  match a.kind with
  | .grant =>
    h.addBinding w given (.named (.text a.name)) (a.members.map fun m => .member (.text m))
  | .revoke =>
    h.removeBinding w given (.named (.text a.name)) (a.members.map fun m => .member (.text m))

/-- What is done for an amendment: an edit with its change, under the credentials to use. -/
theorem run_eq (h : Handle) (w : World σ) (given : Option Credentials) :
    a.run h w given =
      h.withCredentials w given fun w c => w.modify c h.resource.fullName a.change := by
  have hmembers : (a.members.map fun m => MemberArgument.member (.text m)).isEmpty = false := by
    simpa using a.members_ne_nil
  unfold run change
  cases a.kind <;>
    simp only [Handle.addBinding, Handle.removeBinding, Handle.changeBinding, hmembers,
      RoleArgument.resolve, Role.ofValue, a.resolved, Bool.false_eq_true, if_false, role]

end Amendment

end AccessPolicy
