import AccessPolicy.Proofs.Service.Amendment
import AccessPolicy.Proofs.Service.Attempt

/-!
# What an amendment leaves in a store

An amendment that gives a policy has taken effect once, on top of all changes by others that
happened meanwhile, however many attempts it took and whatever befell its requests. The tag guards
against the changes that slip in between reading and writing: the document that is replaced is the
one that was read.

* `Amendment.run_post_state`: the stored policy and the policy given, in terms of the store in which
  only the changes by others happened.
-/

namespace AccessPolicy

open Store (View)

namespace Handle

variable {σ α : Type}

/-- The look-up of credentials leaves the service; without any the work is not done. -/
theorem withCredentials_cases (h : Handle) (w : World σ) (given : Option Credentials)
    (work : World σ → Option Credentials → World σ × Except Failure α) :
    ∃ w' : World σ, w'.service = w.service ∧
      ((∃ e, h.withCredentials w given work = (w', .error e)) ∨
        ∃ c, h.withCredentials w given work = work w' c) := by
  unfold withCredentials credentials
  cases given with
  | some c => exact ⟨w, rfl, .inr ⟨some c, rfl⟩⟩
  | none =>
    cases h.stored with
    | some c => exact ⟨w, rfl, .inr ⟨some c, rfl⟩⟩
    | none =>
      refine ⟨w.note [.defaultCredentials], rfl, ?_⟩
      cases w.ambient with
      | some c => exact .inr ⟨some c, rfl⟩
      | none => exact .inl ⟨_, rfl⟩

end Handle

namespace Amendment

variable (a : Amendment)

/-- What an amendment that gave a policy leaves in a store: the changes by others that happened, the
policy before the amendment, and the policy after it. -/
structure PostState (name : String) (before after : Store) (p q : Policy) : Prop where
  /-- The document that the changes by others alone would have made reads as the first policy. -/
  read_before : Policy.decode (before.current name) = .ok p
  /-- The document that is there reads as the second policy. -/
  read_after : Policy.decode (after.current name) = .ok q
  /-- The second policy has the bindings that the change makes of the first. -/
  changed : ∃ r, Edit.changed a.change p = .ok r ∧ q.bindings.same r.bindings = true
  /-- The role is held by those who should hold it, all other roles are held as before. -/
  holds : ∀ r i, q.bindings.Holds r i ↔ a.After p.bindings.Holds r i
  /-- A role has a binding only if someone holds it. -/
  roles : ∀ r, q.bindings.HasRole r ↔ ∃ i, q.bindings.Holds r i
  /-- The documents of other resources are what the changes by others made of them. -/
  others : ∀ other, other ≠ name → after.current other = before.current other

/-- The parts of a post-state that follow from the bindings. -/
private theorem postState_of_same {name : String} {before after : Store} {p q : Policy}
    (hp : Policy.decode (before.current name) = .ok p)
    (hq : Policy.decode (after.current name) = .ok q)
    (hsame : q.bindings.same (a.apply p).bindings = true)
    (hothers : ∀ other, other ≠ name → after.current other = before.current other) :
    a.PostState name before after p q where
  read_before := hp
  read_after := hq
  changed := ⟨_, a.changed_eq (Policy.decode_sound hp), hsame⟩
  holds r i := by
    have hsound := Policy.decode_sound hp
    rw [Bindings.same_iff_holds (Policy.decode_sound hq) (a.apply_sound hsound)] at hsame
    rw [hsame, a.holds_apply hsound]
  roles r := (Policy.decode_sound hq).hasRole_iff
  others := hothers

private theorem current_passEdits (n : Nat) (s : Store) :
    (s.passEdits n).current = (View.takeEdit^[n] s.view).current :=
  congrArg View.current (s.view_passEdits n)

/-- The post-state if nothing was written, since the amendment makes no difference. -/
private theorem postState_of_unchanged {s after : Store} {name : String} {n : Nat}
    {q updated : Policy} (hview : after.view = View.takeEdit^[n] s.view)
    (hread : Policy.decode (after.current name) = .ok q)
    (hchanged : Edit.changed a.change q = .ok updated) (hsame : updated.same q = true) :
    a.PostState name (s.passEdits n) after q q := by
  have hcurrent : after.current = (s.passEdits n).current := by
    rw [current_passEdits, ← hview]
    rfl
  have hsound := Policy.decode_sound hread
  obtain rfl := Except.ok.inj ((a.changed_eq hsound).symm.trans hchanged)
  have hbindings : (a.apply q).bindings.same q.bindings = true := by
    simp only [Policy.same, Bool.and_eq_true] at hsame
    exact hsame.1.1.2
  exact a.postState_of_same (hcurrent ▸ hread) hread
    ((Bindings.same_comm (a.apply_sound hsound) hsound).mp hbindings)
    fun other _ => by rw [hcurrent]

/-- The post-state after a write was accepted. The document that was replaced carries the tag of the
one that was read, so it is that one. -/
private theorem postState_of_stored {s after : Store} {name : String}
    (hguard : s.view.Guarded name) {j n : Nat} (hjn : j ≤ n) {current updated q : Policy}
    {fields : List (Value × Value)}
    (hread : Policy.decode ((View.takeEdit^[j] s.view).current name) = .ok current)
    (hchanged : Edit.changed a.change current = .ok updated)
    (hfields : Edit.fieldsOf updated = .ok fields)
    (hetag :
      Store.carriesOther (Store.etagOf ((View.takeEdit^[n] s.view).current name)) fields = false)
    (hview : after.view = (View.takeEdit^[n] s.view).accept name fields)
    (hstored : Policy.decode ((View.takeEdit^[n] s.view).stored fields) = .ok q) :
    a.PostState name (s.passEdits n) after current q := by
  obtain ⟨fs, t, hfs, hjson, ht, -⟩ := (hguard.iterate j).document
  rw [hfs] at hread
  have hsent := Policy.sent_of_decode hjson hread
  obtain rfl := Except.ok.inj ((a.changed_eq hsent.sound).symm.trans hchanged)
  have hcurrent_etag : (a.apply current).etag = .text t :=
    (Policy.decode_map_eq_ok_iff.mp hread).2.2.1.trans ht
  have htag := Store.eq_text_of_carriesOther
    ((Edit.renders_of_fieldsOf hfields).field?_etag_of_text hcurrent_etag) hetag
  have hkept := hguard.current_eq_of_etag hjn (htag.trans (by rw [hfs]; exact ht.symm))
  have hread_before : Policy.decode ((s.passEdits n).current name) = .ok current := by
    rw [current_passEdits, hkept, hfs]
    exact hread
  obtain ⟨bs, hdecode, hsame⟩ := (a.apply_sent hsent).exists_decode_stored hfields
    (View.tag ((View.takeEdit^[n] s.view).issued + 1))
  obtain rfl := Except.ok.inj (hstored.symm.trans hdecode)
  have hcurrent : after.current = Function.update (s.passEdits n).current name
      ((View.takeEdit^[n] s.view).stored fields) := by
    rw [current_passEdits]
    exact congrArg View.current hview
  refine a.postState_of_same hread_before ?_ hsame fun other hother => ?_
  · rw [hcurrent, Function.update_self]
    exact hdecode
  · rw [hcurrent, Function.update_of_ne hother]

/-- The post-state of an edit that gave a policy. -/
private theorem exists_postState {s after : Store} {name : String} (hguard : s.view.Guarded name)
    {q : Policy} (h : Edit.Stands a.change name s.view after.view (.finished (.ok q))) :
    ∃ n p, after.edits = s.edits.drop n ∧ a.PostState name (s.passEdits n) after p q := by
  have hedits : ∀ n, (View.takeEdit^[n] s.view).edits = s.edits.drop n := fun n =>
    View.edits_iterate n s.view
  rcases h.cases_of_ok with ⟨n, updated, hview, hread, hchanged, hsame⟩ |
    ⟨j, n, current, updated, fields, hjn, hread, hchanged, hfields, hetag, hview, hstored⟩
  · exact ⟨n, q, (congrArg View.edits hview).trans (hedits n),
      a.postState_of_unchanged hview hread hchanged hsame⟩
  · exact ⟨n, current, (congrArg View.edits hview).trans (hedits n),
      a.postState_of_stored hguard hjn hread hchanged hfields hetag hview hstored⟩

/-- **The post-state of an amendment.** Let the document of a resource carry a tag that is not
issued again. An amendment that gives a policy leaves the document that the changes by others make,
with the amendment applied once; the policy given is what the document reads as. -/
theorem run_post_state (h : Handle) (w : World Store) (given : Option Credentials)
    (hanswer : w.service.writeAnswer = none)
    (hguard : w.service.view.Guarded h.resource.fullName) (q : Policy)
    (hok : (a.run h w given).2 = .ok q) :
    ∃ n p, (a.run h w given).1.service.edits = w.service.edits.drop n ∧
      a.PostState h.resource.fullName (w.service.passEdits n) (a.run h w given).1.service p q := by
  obtain ⟨w', hservice, ⟨e, hrun⟩ | ⟨c, hrun⟩⟩ := h.withCredentials_cases w given
    fun w c => w.modify c h.resource.fullName a.change
  · rw [a.run_eq, hrun] at hok
    simp at hok
  · rw [a.run_eq, hrun] at hok ⊢
    have hstands := w'.modify_stands c h.resource.fullName a.change (hservice ▸ hanswer)
    rw [hok, hservice] at hstands
    exact a.exists_postState hguard hstands

/-- A revocation that someone else gets in the way of: the first write is refused, the second
attempt succeeds and keeps the binding that was added meanwhile. -/
theorem run_post_state_retry :
    ∃ (a : Amendment) (h : Handle) (w : World Store) (q : Policy),
      w.service.documents = [("projects/p", .ofFields [("etag", .text "a"), ("bindings", .list
        [.ofFields [("role", .text "roles/viewer"),
          ("members", .list [.text "user:ann@example.com"])]])])] ∧
      w.service.edits = [("projects/p", .ofFields [("role", .text "roles/editor"),
        ("members", .list [.text "user:bob@example.com"])])] ∧
      a.kind = .revoke ∧ a.members = ["user:ann@example.com"] ∧
      (a.run h w none).2 = .ok q ∧
      ∃ n p, (a.run h w none).1.service.edits = w.service.edits.drop n ∧
        a.PostState h.resource.fullName (w.service.passEdits n) (a.run h w none).1.service p q := by
  let a : Amendment :=
    ⟨.revoke, "viewer", ["user:ann@example.com"], [⟨.user, .text "ann@example.com"⟩], by simp, rfl⟩
  let h : Handle := { resource := ⟨.projects, .text "p"⟩, stored := some "me" }
  let w : World Store := { service := {
    documents := [("projects/p", .ofFields [("etag", .text "a"), ("bindings", .list
      [.ofFields [("role", .text "roles/viewer"),
        ("members", .list [.text "user:ann@example.com"])]])])]
    edits := [("projects/p", .ofFields [("role", .text "roles/editor"),
      ("members", .list [.text "user:bob@example.com"])])] } }
  have hok : (a.run h w none).2.toOption.isSome = true := by with_unfolding_all decide
  obtain ⟨q, hrun⟩ : ∃ q, (a.run h w none).2 = .ok q := by
    cases hr : (a.run h w none).2 with
    | error e => simp [hr, Except.toOption] at hok
    | ok q => exact ⟨q, rfl⟩
  have hguard : w.service.view.Guarded h.resource.fullName := by
    refine ⟨⟨_, "a", rfl, rfl, rfl, fun n _ heq => ?_⟩, ?_⟩
    · have htext : ("a" : String) = "etag-" ++ toString n := by simpa [View.tag] using heq
      simpa using congrArg (fun s => s.toList.head?) htext
    · intro e he
      obtain rfl := List.mem_singleton.mp he
      rfl
  exact ⟨a, h, w, q, rfl, rfl, rfl, rfl, hrun, a.run_post_state h w none rfl hguard q hrun⟩

end Amendment

end AccessPolicy
