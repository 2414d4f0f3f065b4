import AccessPolicy.Proofs.Service.Session

/-!
# Policies that can come about

A policy is built, rebuilt from another one, read from a document, or given by an operation of a
session. All of these have sound bindings, as long as the identities named in removals can be
elements of a set, so that no removal stops half-way; a policy that came about in any combination of
these ways can be rebuilt as it is.

* `Policy.Reachable`: the ways in which policies come about;
* `Policy.Reachable.sound`: their bindings are sound;
* `Policy.Reachable.rebuild`: they are what their builders build.
-/

namespace AccessPolicy

namespace Policy

/-- The policies that come about by runs of builders, from documents, and in sessions. Calls of
builders may fail. All identities that are to be removed can be elements of a set, as those with a
text or no value can. -/
inductive Reachable : Policy → Prop where
  /-- By calls of a builder that starts empty, or with given bindings. -/
  | built {family : Family} {grants : Option Grants} {etag version : Value} {b : Builder}
    (hmake : Builder.make family grants etag version = .ok b) {calls : List Builder.Call}
    (hcalls : ∀ c ∈ calls, ∀ i, c.Removes i → i.hashable = true) : Reachable (b.run calls).build
  /-- By calls of a builder that starts from a policy. -/
  | rebuilt {p : Policy} (hp : Reachable p) {b : Builder} (hbuilder : p.toBuilder = .ok b)
    {calls : List Builder.Call} (hcalls : ∀ c ∈ calls, ∀ i, c.Removes i → i.hashable = true) :
    Reachable (b.run calls).build
  /-- From a document. -/
  | read {document : Value} {p : Policy} (hread : decode document = .ok p) : Reachable p
  /-- By an operation of a session, on any service. -/
  | given {σ : Type} [Service σ] {w : World σ} {step : Session.Step} {p : Policy}
    (hgiven : (step.perform w).2 = .ok (some p)) : Reachable p

/-- **The invariant of policies.** Every role has one binding, with members, and none of them twice.
A role or a member cannot be missing: what callers leave out never gets into bindings, by their
type. -/
theorem Reachable.sound {p : Policy} (h : p.Reachable) : p.bindings.Sound := by
  induction h with
  | built hmake hcalls => exact Builder.run_sound (Builder.make_sound hmake) hcalls
  | rebuilt _ hbuilder hcalls ih =>
    obtain rfl := Except.ok.inj ((toBuilder_of_sound ih).symm.trans hbuilder)
    exact Builder.run_sound ih hcalls
  | read hread => exact decode_sound hread
  | @given σ _ w step p hgiven =>
    obtain ⟨document, hread⟩ := (step.performs w).gives _ hgiven p rfl
    exact decode_sound hread

/-- **Rebuilding.** A policy that came about has well-formed bindings. It gives a builder, and that
builds the policy again, with its roles in the same order; which is equal to the policy if its tag
and version are equal to themselves. -/
theorem Reachable.rebuild {p : Policy} (h : p.Reachable) :
    p.bindings.WellFormed ∧ ∃ b, p.toBuilder = .ok b ∧ b.build = p ∧
      (sameField p.etag p.etag = true → sameField p.version p.version = true →
        b.build.same p = true) := by
  refine ⟨h.sound.toWellFormed, _, toBuilder_of_sound h.sound, rfl, fun hetag hversion => ?_⟩
  simp [same, Builder.build, Bindings.same_self h.sound, hetag, hversion]

/-- A policy that is read from a document in which a role occurs twice, and what is left of it after
a call that fails and a removal. -/
theorem Reachable.rebuild_after_removal :
    let ann : Identity := ⟨.user, .text "ann@example.com"⟩
    let bob : Identity := ⟨.user, .text "bob@example.com"⟩
    let b : Builder := ⟨.roles, [(Role.viewer, [ann, bob])], .text "tag", .null⟩
    let q := (b.run [.addIdentity none [some ann],
      .removeIdentity (some Role.viewer) [some ann]]).build
    decode (.ofFields [("etag", .text "tag"), ("bindings", .list [
        .ofFields [("role", .text "viewer"), ("members", .list [.text "user:ann@example.com"])],
        .ofFields [("role", .text "roles/viewer"),
          ("members", .list [.text "user:bob@example.com"])]])]) = .ok b.build ∧
      q.bindings = [(Role.viewer, [bob])] ∧
      q.bindings.WellFormed ∧
      ∃ b', q.toBuilder = .ok b' ∧ b'.build = q ∧ b'.build.same q = true := by
  intro ann bob b q
  have hread : decode (.ofFields [("etag", .text "tag"), ("bindings", .list [
      .ofFields [("role", .text "viewer"), ("members", .list [.text "user:ann@example.com"])],
      .ofFields [("role", .text "roles/viewer"),
        ("members", .list [.text "user:bob@example.com"])]])]) = .ok b.build := by
    with_unfolding_all rfl
  have hbuilder : b.build.toBuilder = .ok b := toBuilder_of_sound (decode_sound hread)
  have hq : q.Reachable := .rebuilt (.read hread) hbuilder
    (by simp [ann, Builder.Call.Removes, Identity.hashable, Value.hashable])
  obtain ⟨hwell, b', hb', hbuild, hsame⟩ := hq.rebuild
  refine ⟨hread, ?_, hwell, b', hb', hbuild, ?_⟩
  · with_unfolding_all rfl
  · refine hsame ?_ ?_ <;> with_unfolding_all rfl

end Policy

end AccessPolicy
