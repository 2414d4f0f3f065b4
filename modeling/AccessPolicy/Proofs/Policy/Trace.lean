import AccessPolicy.Proofs.Policy.Building

/-!
# What a run of calls amounts to

Who holds what after a run can be read off the calls, without looking at a builder: an identity
holds a role exactly if some call gave the role to it and no later call took it away. Calls that are
refused count as no calls; whether a call is refused depends on its arguments alone.

* `Builder.Call.Refused`, `Builder.Call.Gives`, `Builder.Call.Takes`: what a call comes to, in terms
  of its arguments;
* `Builder.fails_iff_refused`, `Builder.holds_apply`: the builder does that;
* `Builder.run_trace`: what a run leaves, from an empty builder.
-/

namespace AccessPolicy

/-! ### Bindings as callers give them -/

namespace Grants

/-- Whether given bindings bind a role to an identity. -/
def Binds (gs : Grants) (r : Role) (i : Identity) : Prop :=
  ∃ r' s j, (some r', some s) ∈ gs ∧ r'.same r = true ∧ .ok (some j) ∈ s ∧ j.same i = true

/-- Whether a role, a set of identities or an identity is missing from given bindings, or an
identity cannot be read. -/
def Lacking (gs : Grants) : Prop :=
  ∃ g ∈ gs, g.1 = none ∨ g.2 = none ∨ ∃ s ∈ g.2, ∃ item ∈ s, ∀ i, item ≠ .ok (some i)

/-- Given bindings as a map from roles to sets of identities has them: all roles and identities may
be keys, and no role occurs twice. -/
structure Keyed (gs : Grants) : Prop where
  /-- No two entries are of the same role. -/
  roles_differ : gs.Pairwise fun a b => ∀ r ∈ a.1, ∀ r' ∈ b.1, r.same r' = false
  /-- Every role may be a key. -/
  role_hashable : ∀ g ∈ gs, ∀ r ∈ g.1, r.hashable = true
  /-- Every identity may be an element of a set. -/
  identity_hashable : ∀ g ∈ gs, ∀ s ∈ g.2, ∀ i, .ok (some i) ∈ s → i.hashable = true

/-- Given bindings from which nothing is missing are those of roles and identities. -/
theorem exists_toGrants {gs : Grants} (h : ¬ gs.Lacking) : ∃ bs : Bindings, gs = bs.toGrants := by
  have hsupply : ∀ s : Supply, (∀ item ∈ s, ∃ i, item = .ok (some i)) →
      ∃ ids, s = Supply.ofMembers ids := by
    intro s hs
    induction s with
    | nil => exact ⟨[], rfl⟩
    | cons item rest ih =>
      obtain ⟨i, rfl⟩ := hs item (by simp)
      obtain ⟨ids, rfl⟩ := ih fun x hx => hs x (by simp [hx])
      exact ⟨i :: ids, rfl⟩
  induction gs with
  | nil => exact ⟨[], rfl⟩
  | cons g rest ih =>
    obtain ⟨bs, rfl⟩ := ih fun ⟨x, hx, hlack⟩ => h ⟨x, by simp [hx], hlack⟩
    obtain ⟨role, supply⟩ := g
    cases role with
    | none => exact absurd ⟨_, List.mem_cons_self .., .inl rfl⟩ h
    | some r =>
      cases supply with
      | none => exact absurd ⟨_, List.mem_cons_self .., .inr (.inl rfl)⟩ h
      | some s =>
        obtain ⟨ids, rfl⟩ := hsupply s fun item hitem => by
          by_contra hno
          exact h ⟨_, List.mem_cons_self .., .inr (.inr ⟨s, rfl, item, hitem, by simpa using hno⟩)⟩
        exact ⟨(r, ids) :: bs, rfl⟩

theorem not_lacking_toGrants (bs : Bindings) : ¬ Lacking bs.toGrants := by
  rintro ⟨g, hg, hlack⟩
  obtain ⟨e, -, rfl⟩ := List.mem_map.mp hg
  simp [Supply.ofMembers] at hlack

theorem binds_toGrants {bs : Bindings} {r : Role} {i : Identity} :
    Binds bs.toGrants r i ↔ bs.Holds r i := by
  constructor
  · rintro ⟨r', s, j, hmem, hr, hj, hi⟩
    obtain ⟨e, he, heq⟩ := List.mem_map.mp hmem
    obtain ⟨rfl, rfl⟩ : e.1 = r' ∧ Supply.ofMembers e.2 = s := by simpa using heq
    exact ⟨e, he, hr, Members.has_iff.mpr ⟨j, by simpa [Supply.ofMembers] using hj, hi⟩⟩
  · rintro ⟨e, he, hr, hi⟩
    obtain ⟨j, hj, hji⟩ := Members.has_iff.mp hi
    exact ⟨e.1, _, j, List.mem_map_of_mem he, hr, by simpa [Supply.ofMembers] using hj, hji⟩

/-- Roles and identities that a map has are kept apart by it. -/
private theorem Keyed.of_toGrants {bs : Bindings} (h : Keyed bs.toGrants) :
    bs.Pairwise (fun a b => a.1.same b.1 = false) ∧ (∀ e ∈ bs, e.1.hashable = true) ∧
      ∀ e ∈ bs, ∀ i ∈ e.2, i.hashable = true := by
  refine ⟨?_, fun e he => ?_, fun e he i hi => ?_⟩
  · have hdiffer := h.roles_differ
    rw [Bindings.toGrants, List.pairwise_map] at hdiffer
    simpa using hdiffer
  · exact h.role_hashable _ (List.mem_map_of_mem he) e.1 rfl
  · exact h.identity_hashable _ (List.mem_map_of_mem he) _ rfl i
      (by simpa [Supply.ofMembers] using hi)

end Grants

namespace Builder

/-! ### Calls by their arguments -/

namespace Call

/-- Whether all roles and identities of a call may be keys, and bindings given are those of a
map. -/
def Keyed : Call → Prop
  | .addIdentity role ids | .removeIdentity role ids =>
    (∀ r ∈ role, r.hashable = true) ∧ ∀ i, some i ∈ ids → i.hashable = true
  | .removeRole role => ∀ r ∈ role, r.hashable = true
  | .setBindings grants => ∀ gs ∈ grants, gs.Keyed
  | .setEtag _ | .setVersion _ => True

/-- Whether something is missing from a call that should be there: an argument, a role or an
identity that is to be bound. Removals of what is missing are no mistake. -/
def Refused : Call → Prop
  | .addIdentity role ids => role = none ∨ ids = [] ∨ none ∈ ids
  | .removeIdentity _ ids => ids = []
  | .setBindings grants => grants = none ∨ ∃ gs ∈ grants, gs.Lacking
  | .removeRole _ | .setEtag _ | .setVersion _ => False

/-- Whether a call gives a role to an identity: by a grant, or by new bindings. -/
def Gives : Call → Role → Identity → Prop
  | .addIdentity role ids, r, i =>
    (∃ r' ∈ role, r'.same r = true) ∧ ∃ j, some j ∈ ids ∧ j.same i = true
  | .setBindings grants, r, i => ∃ gs ∈ grants, gs.Binds r i
  | _, _, _ => False

/-- Whether a call takes a role from an identity if it has it: by a removal of either, or by new
bindings that do not bind them. -/
def Takes : Call → Role → Identity → Prop
  | .removeIdentity role ids, r, i =>
    (∃ r' ∈ role, r'.same r = true) ∧ ∃ j, some j ∈ ids ∧ j.same i = true
  | .removeRole role, r, _ => ∃ r' ∈ role, r'.same r = true
  | .setBindings grants, r, i => ∃ gs ∈ grants, ¬ gs.Binds r i
  | _, _, _ => False

theorem Keyed.removes {c : Call} (h : c.Keyed) : ∀ i, c.Removes i → i.hashable = true := by
  cases c with
  | removeIdentity role ids => exact h.2
  | _ => exact fun _ hi => hi.elim

end Call

/-- Whether a role stands with an identity after calls: some call gave it, none since then took it
away. Calls that are refused do neither. -/
def Stands (calls : List Call) (r : Role) (i : Identity) : Prop :=
  ∃ before c after, calls = before ++ c :: after ∧ ¬ c.Refused ∧ c.Gives r i ∧
    ∀ d ∈ after, ¬ d.Refused → ¬ d.Takes r i

/-! ### One call -/

/-- An entry of given bindings whose role is new is granted, unless it has no identities. -/
private theorem readGrants_cons {r : Role} {ids : Members} {rest acc : Bindings}
    (hr : r.hashable = true) (hids : ∀ i ∈ ids, i.hashable = true)
    (hnew : ∀ x ∈ acc, x.1.same r = false) :
    readGrants (Bindings.toGrants ((r, ids) :: rest)) acc =
      readGrants rest.toGrants (if ids = [] then acc else acc.grant r ids) := by
  have hgrant : acc.grant r ids = acc.put r (Members.union [] ids) := by
    rw [Bindings.grant, Bindings.find?_eq_none.mpr hnew, Option.getD_none]
  rw [Bindings.toGrants, List.map_cons, readGrants, Supply.collect_ofMembers hids, hgrant]
  by_cases hnil : ids = []
  · subst hnil
    rfl
  · obtain ⟨i, ms, hunion⟩ :=
      List.exists_cons_of_ne_nil (@Bindings.union_ne_nil [] ids (.inr hnil))
    simp only [hunion, hr, hnil, if_true, if_false, Bindings.toGrants]

/-- New bindings are read to their end, and hold what they bind. -/
private theorem exists_readGrants {l : Bindings}
    (hdiffer : l.Pairwise fun a b => a.1.same b.1 = false) (hroles : ∀ e ∈ l, e.1.hashable = true)
    (hids : ∀ e ∈ l, ∀ i ∈ e.2, i.hashable = true) {acc : Bindings} (hacc : acc.Sound)
    (hnew : ∀ x ∈ acc, ∀ e ∈ l, x.1.same e.1 = false) :
    ∃ bs, readGrants l.toGrants acc = .ok bs ∧
      ∀ r i, bs.Holds r i ↔ acc.Holds r i ∨ l.Holds r i := by
  induction l generalizing acc with
  | nil => exact ⟨acc, rfl, by simp [Bindings.Holds]⟩
  | cons e rest ih =>
    obtain ⟨r, ids⟩ := e
    have hr := hroles _ (List.mem_cons_self ..)
    have hi := hids _ (List.mem_cons_self ..)
    obtain ⟨he, hrest⟩ := List.pairwise_cons.mp hdiffer
    have hcons : ∀ r' i, Bindings.Holds ((r, ids) :: rest) r' i ↔
        (r.same r' = true ∧ Members.has ids i = true) ∨ Bindings.Holds rest r' i := by
      simp [Bindings.Holds]
    rw [readGrants_cons hr hi fun x hx => hnew x hx _ (List.mem_cons_self ..)]
    replace ih := @ih hrest (fun x hx => hroles x (by simp [hx])) fun x hx => hids x (by simp [hx])
    by_cases hnil : ids = []
    · obtain ⟨bs, hbs, hholds⟩ := ih hacc fun x hx y hy => hnew x hx y (by simp [hy])
      exact ⟨bs, by rwa [if_pos hnil], fun r' i => by rw [hholds, hcons]; simp [hnil]⟩
    · obtain ⟨bs, hbs, hholds⟩ := ih (hacc.grant hr hi hnil) fun x hx y hy => by
        rcases Bindings.mem_put hx with hx | ⟨-, h1 | ⟨z, hz, h1⟩⟩
        · exact hnew x hx y (by simp [hy])
        · exact h1 ▸ he y hy
        · exact h1 ▸ hnew z hz y (by simp [hy])
      refine ⟨bs, by rwa [if_neg hnil], fun r' i => ?_⟩
      rw [hholds, Bindings.holds_grant hacc.apart hr hi, hcons, or_assoc]

/-- Given bindings that can be read are those of roles and identities. -/
private theorem exists_toGrants_of_readGrants {gs : Grants} {acc bs : Bindings}
    (h : readGrants gs acc = .ok bs) : ∃ l : Bindings, gs = l.toGrants := by
  induction gs generalizing acc with
  | nil => exact ⟨[], rfl⟩
  | cons g rest ih =>
    obtain ⟨_ | r, _ | s⟩ := g
    · simp [readGrants] at h
    · simp [readGrants] at h
    · simp [readGrants] at h
    · rw [readGrants] at h
      have hrest : ∃ acc', readGrants rest acc' = .ok bs := by
        split at h
        · simp at h
        · exact ⟨_, h⟩
        · split at h
          · exact ⟨_, h⟩
          · simp at h
      obtain ⟨acc', hacc'⟩ := hrest
      obtain ⟨l, rfl⟩ := ih hacc'
      split at h
      · simp at h
      all_goals
        next hcollect =>
          obtain ⟨ids, rfl, -⟩ := Supply.collect_eq_ok_iff.mp hcollect
          exact ⟨(r, ids) :: l, rfl⟩

/-- New bindings of a map replace all bindings, unless something is missing. -/
private theorem setBindings_toGrants {l : Bindings} (h : Grants.Keyed l.toGrants) (b : Builder) :
    ∃ bs, b.setBindings (some l.toGrants) = .ok { b with bindings := bs } ∧
      ∀ r i, bs.Holds r i ↔ Grants.Binds l.toGrants r i := by
  obtain ⟨hdiffer, hroles, hids⟩ := h.of_toGrants
  obtain ⟨bs, hread, hholds⟩ := exists_readGrants hdiffer hroles hids Bindings.Sound.nil (by simp)
  refine ⟨bs, by rw [setBindings, hread], fun r i => ?_⟩
  rw [hholds, Grants.binds_toGrants]
  simp [Bindings.Holds]

private theorem exists_map_some {ids : List (Option Identity)} (h : none ∉ ids) :
    ∃ js : List Identity, ids = js.map some := by
  induction ids with
  | nil => exact ⟨[], rfl⟩
  | cons i rest ih =>
    obtain ⟨hi, hrest⟩ : none ≠ i ∧ none ∉ rest := by simpa using h
    obtain ⟨js, rfl⟩ := ih hrest
    obtain ⟨j, rfl⟩ := Option.ne_none_iff_exists'.mp hi.symm
    exact ⟨j :: js, rfl⟩

private theorem settle_of_not_ok {b : Builder} {r : Except Failure Builder} (h : ∀ b', r ≠ .ok b') :
    ∃ e, b.settle r = (b, some e) := by
  cases r with
  | error e => exact ⟨e, rfl⟩
  | ok b' => exact absurd rfl (h b')

/-- **A refused call** fails and changes nothing. -/
theorem apply_of_refused {c : Call} (h : c.Refused) (b : Builder) :
    ∃ e, b.apply c = (b, some e) := by
  cases c with
  | addIdentity role ids =>
    refine settle_of_not_ok fun b' hb' => ?_
    obtain ⟨r, js, rfl, rfl, hne, -⟩ := addIdentity_eq_ok_iff.mp hb'
    simp [Call.Refused, hne] at h
  | removeIdentity role ids =>
    obtain rfl : ids = [] := h
    exact ⟨_, rfl⟩
  | setBindings grants =>
    refine settle_of_not_ok fun b' hb' => ?_
    rcases h with rfl | ⟨gs, rfl, hlack⟩
    · simp [setBindings] at hb'
    · simp only [setBindings] at hb'
      split at hb'
      · simp at hb'
      · next hread =>
        obtain ⟨l, rfl⟩ := exists_toGrants_of_readGrants hread
        exact Grants.not_lacking_toGrants l hlack
  | removeRole role | setEtag etag | setVersion version => exact absurd h id

/-- **A call that is not refused** does not fail, and changes who holds what as it says. -/
theorem holds_apply {b : Builder} (hb : b.bindings.Sound) {c : Call} (hc : c.Keyed)
    (h : ¬ c.Refused) : (b.apply c).2 = none ∧
      ∀ r i, (b.apply c).1.bindings.Holds r i ↔
        c.Gives r i ∨ b.bindings.Holds r i ∧ ¬ c.Takes r i := by
  cases c with
  | addIdentity role ids =>
    obtain ⟨hrole, hids⟩ := hc
    obtain ⟨hr, hne, hnone⟩ : role ≠ none ∧ ids ≠ [] ∧ none ∉ ids := by
      simpa [Call.Refused, not_or] using h
    obtain ⟨r, rfl⟩ := Option.ne_none_iff_exists'.mp hr
    obtain ⟨js, rfl⟩ := exists_map_some hnone
    have hjs : ∀ j ∈ js, j.hashable = true := fun j hj => hids j (List.mem_map_of_mem hj)
    have happly : b.apply (.addIdentity (some r) (js.map some)) =
        ({ b with bindings := b.bindings.grant r (Members.union [] js) }, none) := by
      rw [apply, addIdentity_of_hashable (hrole r rfl) hjs (by simpa using hne), settle]
    rw [happly]
    refine ⟨rfl, fun r' i => ?_⟩
    rw [Bindings.holds_grant hb.apart (hrole r rfl)
      (Members.Sound.union hjs Members.Sound.nil).hashable, Members.has_union_nil hjs,
      Members.has_iff, or_comm]
    simp [Call.Gives, Call.Takes]
  | removeIdentity role ids =>
    obtain ⟨hrole, hids⟩ := hc
    cases role with
    | none => simp [apply, removeIdentity, Call.Gives, Call.Takes, show ids ≠ [] from h]
    | some r =>
      rw [apply, removeIdentity_of_hashable (hrole r rfl) h hids]
      refine ⟨rfl, fun r' i => ?_⟩
      rw [Bindings.holds_revoke hb.apart (hrole r rfl) fun j hj => hids j (by simpa using hj),
        Members.has_iff]
      simp [Call.Gives, Call.Takes]
  | removeRole role =>
    cases role with
    | none => simp [apply, removeRole, settle, Call.Gives, Call.Takes]
    | some r =>
      by_cases hempty : b.bindings = []
      · simp [apply, removeRole, settle, Call.Gives, hempty, Bindings.Holds]
      · have happly : b.apply (.removeRole (some r)) =
            ({ b with bindings := b.bindings.erase r }, none) := by
          simp [apply, removeRole, settle, hempty, hc r rfl]
        rw [happly]
        refine ⟨rfl, fun r' i => ?_⟩
        rw [Bindings.holds_erase hb.apart (hc r rfl)]
        simp [Call.Gives, Call.Takes]
  | setBindings grants =>
    obtain ⟨hsome, hlack⟩ : grants ≠ none ∧ ∀ gs ∈ grants, ¬ gs.Lacking := by
      simpa [Call.Refused, not_or] using h
    obtain ⟨gs, rfl⟩ := Option.ne_none_iff_exists'.mp hsome
    obtain ⟨l, rfl⟩ := Grants.exists_toGrants (hlack gs rfl)
    obtain ⟨bs, hset, hholds⟩ := setBindings_toGrants (hc _ rfl) b
    rw [apply, hset, settle]
    refine ⟨rfl, fun r i => ?_⟩
    rw [hholds]
    simp only [Call.Gives, Call.Takes, Option.mem_some_iff, exists_eq_left', not_not]
    tauto
  | setEtag etag => simp [apply, setEtag, Call.Gives, Call.Takes]
  | setVersion version => simp [apply, setVersion, Call.Gives, Call.Takes]

/-- Whether a call fails depends on its arguments alone. -/
theorem fails_iff_refused {b : Builder} (hb : b.bindings.Sound) {c : Call} (hc : c.Keyed) :
    (b.apply c).2 ≠ none ↔ c.Refused := by
  constructor
  · intro hfails
    by_contra h
    exact hfails (holds_apply hb hc h).1
  · intro h
    obtain ⟨e, he⟩ := apply_of_refused h b
    simp [he]

/-! ### Runs -/

private theorem not_stands_nil (r : Role) (i : Identity) : ¬ Stands [] r i := by
  rintro ⟨before, c, after, h, -⟩
  simp at h

/-- A role stands since the first call, or since a later one. -/
private theorem stands_cons {c : Call} {rest : List Call} {r : Role} {i : Identity} :
    Stands (c :: rest) r i ↔ Stands rest r i ∨
      (¬ c.Refused ∧ c.Gives r i ∧ ∀ d ∈ rest, ¬ d.Refused → ¬ d.Takes r i) := by
  constructor
  · rintro ⟨before, d, after, h, hd⟩
    cases before with
    | nil =>
      obtain ⟨rfl, rfl⟩ : c = d ∧ rest = after := by simpa using h
      exact .inr hd
    | cons x before =>
      obtain ⟨-, rfl⟩ : c = x ∧ rest = before ++ d :: after := by simpa using h
      exact .inl ⟨before, d, after, rfl, hd⟩
  · rintro (⟨before, d, after, rfl, hd⟩ | hc)
    · exact ⟨c :: before, d, after, rfl, hd⟩
    · exact ⟨[], c, rest, rfl, hc⟩

/-- **Who holds what after a run**: those with whom the role stands, and those who held it before
and from whom it was not taken. -/
theorem holds_run {b : Builder} (hb : b.bindings.Sound) {calls : List Call}
    (hcalls : ∀ c ∈ calls, c.Keyed) (r : Role) (i : Identity) :
    (b.run calls).bindings.Holds r i ↔ Stands calls r i ∨
      b.bindings.Holds r i ∧ ∀ d ∈ calls, ¬ d.Refused → ¬ d.Takes r i := by
  unfold run
  induction calls generalizing b with
  | nil => simp [not_stands_nil]
  | cons c rest ih =>
    have hc := hcalls c (by simp)
    have hrest := ih (apply_sound hb hc.removes) fun d hd => hcalls d (by simp [hd])
    rw [List.foldl_cons, hrest, stands_cons, List.forall_mem_cons]
    by_cases h : c.Refused
    · obtain ⟨e, he⟩ := apply_of_refused h b
      simp [he, h]
    · rw [(holds_apply hb hc h).2]
      tauto

/-- **The trace of a run.** From an empty builder, a run of calls over roles and identities that may
be keys leaves a policy that can be read off the calls: an identity holds a role exactly if the role
stands with it, a role has a binding exactly if it stands with someone, and tag and version are the
last ones that were set. The calls that count as none are those that fail. -/
theorem run_trace (family : Family) (calls : List Call) (hcalls : ∀ c ∈ calls, c.Keyed) :
    let p := (run { family := family } calls).build
    (∀ r i, p.bindings.Holds r i ↔ Stands calls r i) ∧
      (∀ r, p.bindings.HasRole r ↔ ∃ i, Stands calls r i) ∧
      p.etag = (calls.filterMap Call.etag?).getLastD .null ∧
      p.version = (calls.filterMap Call.version?).getLastD .null ∧
      ∀ before c after, calls = before ++ c :: after →
        ((apply (run { family := family } before) c).2 ≠ none ↔ c.Refused) := by
  have hempty : Bindings.Sound (Builder.bindings { family := family }) := Bindings.Sound.nil
  have hremoves : ∀ l : List Call, (∀ c ∈ l, c.Keyed) →
      ∀ c ∈ l, ∀ i, c.Removes i → i.hashable = true := fun l hl c hc => (hl c hc).removes
  have hholds : ∀ r i, (run { family := family } calls).bindings.Holds r i ↔ Stands calls r i := by
    intro r i
    rw [holds_run hempty hcalls]
    simp [Bindings.Holds]
  refine ⟨hholds, fun r => ?_, run_etag _ calls, run_version _ calls, ?_⟩
  · rw [← exists_congr (hholds r)]
    exact (run_sound hempty (hremoves calls hcalls)).hasRole_iff
  · rintro before c after rfl
    exact fails_iff_refused (run_sound hempty (hremoves before fun d hd => hcalls d (by simp [hd])))
      (hcalls c (by simp))

/-- A role that goes with its last member and comes back with another one, in spite of a call that
is refused in between. -/
theorem run_trace_comes_back :
    let ann : Identity := ⟨.user, .text "ann@example.com"⟩
    let bob : Identity := ⟨.user, .text "bob@example.com"⟩
    let calls : List Call :=
      [.addIdentity (some Role.viewer) [some ann], .removeIdentity (some Role.viewer) [some ann],
        .addIdentity (some Role.viewer) [some ann, none],
        .addIdentity (some Role.viewer) [some bob]]
    (∀ c ∈ calls, c.Keyed) ∧ Stands calls Role.viewer bob ∧ ¬ Stands calls Role.viewer ann := by
  intro ann bob calls
  have hkeyed : ∀ c ∈ calls, c.Keyed := by
    simp [calls, ann, bob, Call.Keyed, Role.hashable, Role.viewer, Identity.hashable,
      Value.hashable]
  have htrace := (run_trace .roles calls hkeyed).1
  have hrun : (run { family := .roles } calls).build.bindings = [(Role.viewer, [bob])] := by
    with_unfolding_all rfl
  rw [hrun] at htrace
  refine ⟨hkeyed, (htrace _ _).mp ?_, fun h => ?_⟩
  · exact ⟨_, List.mem_singleton_self _, Value.same_refl rfl,
      by simp [Members.has, Identity.same, bob]⟩
  · obtain ⟨e, he, -, hann⟩ := (htrace _ _).mpr h
    obtain rfl := List.mem_singleton.mp he
    simp [Members.has, Identity.same, bob, ann] at hann

end Builder

end AccessPolicy
