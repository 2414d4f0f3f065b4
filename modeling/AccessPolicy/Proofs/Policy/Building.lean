import AccessPolicy.Policy.Builder
import AccessPolicy.Proofs.Bindings.Holding

/-!
# Runs of a builder

Every call keeps the bindings of a builder sound, with one exception: a removal that meets an
identity that cannot be an element of a set stops half-way, and may leave a role without members.
Identities with a text or no value can be elements of a set. A builder with sound bindings is
rebuilt from its policy as it was.

* `Builder.run_sound`: a run of calls keeps bindings sound, whichever of the calls fail, if all
  identities named in removals (`Builder.Call.Removes`) can be elements of a set;
* `Builder.run_apart`: a run of any calls keeps roles and members apart;
* `Builder.exists_apply_eq`, `Builder.run_etag`, `Builder.run_version`: tag and version are those
  that were set last;
* `Policy.toBuilder_of_sound`: a policy with sound bindings gives a builder with just these;
* `Builder.addIdentity_of_hashable`, `Builder.removeIdentity_of_hashable`: a grant and a revocation
  in terms of the bindings.
-/

namespace AccessPolicy

/-! ### Supplies of identities -/

namespace Supply

/-- Given identities are read to their end if all of them may be elements of a set. -/
theorem read_ofMembers {ids : List Identity} (hids : ∀ i ∈ ids, i.hashable = true) (ms : Members)
    (missing : Bool) : read (ofMembers ids) ms missing = .ok (ms.union ids, missing) := by
  induction ids generalizing ms with
  | nil => rfl
  | cons i ids ih =>
    have hi := hids i (by simp)
    rw [ofMembers, List.map_cons, read, if_pos hi]
    exact ih (fun j hj => hids j (by simp [hj])) (ms.insert i)

theorem collect_ofMembers {ids : List Identity} (hids : ∀ i ∈ ids, i.hashable = true) :
    collect (ofMembers ids) = .ok (Members.union [] ids) := by
  rw [collect, read_ofMembers hids]

/-- A reading that ends without a missing identity has read given identities to their end. -/
private theorem eq_ofMembers_of_read {s : Supply} {ms ms' : Members} {missing : Bool}
    (h : s.read ms missing = .ok (ms', false)) :
    missing = false ∧
      ∃ ids, s = ofMembers ids ∧ (∀ i ∈ ids, i.hashable = true) ∧ ms' = ms.union ids := by
  induction s generalizing ms missing with
  | nil =>
    obtain ⟨rfl, rfl⟩ : ms = ms' ∧ missing = false := by simpa [read] using h
    exact ⟨rfl, [], rfl, by simp, rfl⟩
  | cons item rest ih =>
    rcases item with e | _ | i
    · simp [read] at h
    -- from a missing identity on, the reading cannot end well
    · exact absurd (ih (by simpa [read] using h)).1 (by simp)
    · rw [read] at h
      split at h
      · next hi =>
        obtain ⟨hmissing, ids, rfl, hids, rfl⟩ := ih h
        exact ⟨hmissing, i :: ids, rfl, by simpa [hi] using hids, rfl⟩
      · simp at h

/-- **Collecting.** A supply gives members exactly if it is one of given identities, all of which
may be elements of a set. -/
theorem collect_eq_ok_iff {s : Supply} {ms : Members} :
    s.collect = .ok ms ↔
      ∃ ids, s = ofMembers ids ∧ (∀ i ∈ ids, i.hashable = true) ∧ ms = Members.union [] ids := by
  constructor
  · intro h
    unfold collect at h
    split at h
    · simp at h
    · simp at h
    · next hread =>
      obtain rfl := Except.ok.inj h
      exact (eq_ofMembers_of_read hread).2
  · rintro ⟨ids, rfl, hids, rfl⟩
    exact collect_ofMembers hids

theorem collect_sound {s : Supply} {ms : Members} (h : s.collect = .ok ms) : ms.Sound := by
  obtain ⟨ids, -, hids, rfl⟩ := collect_eq_ok_iff.mp h
  exact Members.Sound.union hids Members.Sound.nil

/-- An identity that cannot be an element of a set ends the reading. -/
theorem read_ofMembers_of_unhashable {ids : List Identity} (hids : ∃ i ∈ ids, i.hashable = false)
    (ms : Members) (missing : Bool) : read (ofMembers ids) ms missing = .error .wrongKind := by
  induction ids generalizing ms with
  | nil => simp at hids
  | cons i ids ih =>
    by_cases hi : i.hashable = true
    · have hrest : ∃ j ∈ ids, j.hashable = false := by simpa [hi] using hids
      simpa [ofMembers, read, hi] using ih hrest (ms.insert i)
    · simp [ofMembers, read, hi]

theorem collect_ofMembers_of_unhashable {ids : List Identity}
    (hids : ∃ i ∈ ids, i.hashable = false) : collect (ofMembers ids) = .error .wrongKind := by
  rw [collect, read_ofMembers_of_unhashable hids]

end Supply

namespace Builder

/-! ### Each call -/

/-- Whether an identity is named in a removal. -/
def Call.Removes : Call → Identity → Prop
  | .removeIdentity _ ids, i => some i ∈ ids
  | _, _ => False

theorem readGrants_sound {gs : Grants} {bs bs' : Bindings} (h : readGrants gs bs = .ok bs')
    (hbs : bs.Sound) : bs'.Sound := by
  induction gs generalizing bs with
  | nil =>
    obtain rfl := Except.ok.inj h
    exact hbs
  | cons g rest ih =>
    obtain ⟨role, supply⟩ := g
    cases role with
    | none => simp [readGrants] at h
    | some r =>
      cases supply with
      | none => simp [readGrants] at h
      | some s =>
        rw [readGrants] at h
        split at h
        · simp at h
        · exact ih h hbs
        · next i ms hcollect =>
          split at h
          · next hr => exact ih h (hbs.put hr (Supply.collect_sound hcollect) (by simp))
          · simp at h

/-- Replaced bindings are sound, and nothing else is changed. -/
private theorem setBindings_cases {b b' : Builder} {gs : Option Grants}
    (h : b.setBindings gs = .ok b') : ∃ bs, bs.Sound ∧ b' = { b with bindings := bs } := by
  unfold setBindings at h
  split at h
  · simp at h
  · split at h
    · simp at h
    · next hread =>
      exact ⟨_, readGrants_sound hread Bindings.Sound.nil, (Except.ok.inj h).symm⟩

/-- What a grant does to bindings. -/
theorem addIdentity_of_hashable {b : Builder} {r : Role} (hr : r.hashable = true)
    {ids : List Identity} (hids : ∀ i ∈ ids, i.hashable = true) (hne : ids ≠ []) :
    b.addIdentity (some r) (ids.map some) =
      .ok { b with bindings := b.bindings.grant r (Members.union [] ids) } := by
  have hempty : (ids.map some).isEmpty = false := by simpa using hne
  have hcollect : Supply.collect ((ids.map some).map .ok) = .ok (Members.union [] ids) := by
    rw [List.map_map]
    exact Supply.collect_ofMembers hids
  simp only [addIdentity, hempty, hcollect, hr, Bool.false_eq_true, if_false, if_true]

/-- **Grants.** A grant of a role that may be a key, to one or more identities, is all that
`addIdentity` does. -/
theorem addIdentity_eq_ok_iff {b b' : Builder} {role : Option Role}
    {ids : List (Option Identity)} :
    b.addIdentity role ids = .ok b' ↔
      ∃ r js, role = some r ∧ ids = js.map some ∧ js ≠ [] ∧ r.hashable = true ∧
        (∀ i ∈ js, i.hashable = true) ∧
        b' = { b with bindings := b.bindings.grant r (Members.union [] js) } := by
  constructor
  · intro h
    unfold addIdentity at h
    split at h
    · simp at h
    · next hne =>
      split at h
      · simp at h
      · next r =>
        split at h
        · simp at h
        · next ms hcollect =>
          split at h
          · next hr =>
            obtain ⟨js, hjs, hhashable, rfl⟩ := Supply.collect_eq_ok_iff.mp hcollect
            have hmap : ids.map (Except.ok (ε := Failure)) = (js.map some).map .ok := by
              rw [hjs, List.map_map]
              rfl
            obtain rfl := List.map_injective_iff.mpr (fun _ _ => Except.ok.inj) hmap
            exact ⟨r, js, rfl, rfl, by simpa using hne, hr, hhashable, (Except.ok.inj h).symm⟩
          · simp at h
  · rintro ⟨r, js, rfl, rfl, hne, hr, hids, rfl⟩
    exact addIdentity_of_hashable hr hids hne

/-- A role is removed, or there was none to remove. -/
private theorem removeRole_cases {b b' : Builder} {role : Option Role}
    (h : b.removeRole role = .ok b') :
    b' = b ∨ ∃ r, b' = { b with bindings := b.bindings.erase r } := by
  unfold removeRole at h
  split at h
  · exact .inl (Except.ok.inj h).symm
  · split at h
    · exact .inl (Except.ok.inj h).symm
    · split at h
      · exact .inr ⟨_, (Except.ok.inj h).symm⟩
      · simp at h

/-! ### Removals -/

/-- Without an identity that cannot be an element of a set, a removal goes to its end. -/
theorem withdraw_of_hashable {ids : List (Option Identity)}
    (hids : ∀ i, some i ∈ ids → i.hashable = true) (ms : Members) :
    withdraw ms ids = ((ids.filterMap id).foldl Members.erase ms, none) := by
  induction ids generalizing ms with
  | nil => rfl
  | cons i ids ih =>
    have hrest : ∀ j, some j ∈ ids → j.hashable = true := fun j hj => hids j (by simp [hj])
    cases i with
    | none => simpa [withdraw] using ih hrest ms
    | some i => simpa [withdraw, hids i (by simp)] using ih hrest (ms.erase i)

/-- A removal in terms of the bindings. -/
theorem removeIdentity_of_hashable {b : Builder} {r : Role} (hr : r.hashable = true)
    {ids : List (Option Identity)} (hne : ids ≠ [])
    (hids : ∀ i, some i ∈ ids → i.hashable = true) :
    b.removeIdentity (some r) ids =
      ({ b with bindings := b.bindings.revoke r (ids.filterMap id) }, none) := by
  have hempty : ids.isEmpty = false := by simpa using hne
  simp only [removeIdentity, hempty, hr, Bindings.revoke, Bool.false_eq_true, if_false,
    Bool.not_true]
  cases b.bindings.find? r with
  | none => rfl
  | some ms =>
    simp only [withdraw_of_hashable hids]
    cases (ids.filterMap id).foldl Members.erase ms <;> rfl

private theorem removeIdentity_sound {b : Builder} (hb : b.bindings.Sound) {role : Option Role}
    {ids : List (Option Identity)} (hids : ∀ i, some i ∈ ids → i.hashable = true) :
    (b.removeIdentity role ids).1.bindings.Sound := by
  by_cases hne : ids = []
  · simpa [removeIdentity, hne] using hb
  · cases role with
    | none => simpa [removeIdentity, hne] using hb
    | some r =>
      by_cases hr : r.hashable = true
      · rw [removeIdentity_of_hashable hr hne hids]
        exact hb.revoke hr _
      · simpa [removeIdentity, hne, hr] using hb

theorem withdraw_sound (ids : List (Option Identity)) {ms : Members} (h : ms.Sound) :
    (withdraw ms ids).1.Sound := by
  induction ids generalizing ms with
  | nil => exact h
  | cons i rest ih =>
    cases i with
    | none => exact ih h
    | some i =>
      rw [withdraw]
      split
      · exact ih (h.erase i)
      · exact h

private theorem removeIdentity_apart {b : Builder} (hb : b.bindings.Apart) (role : Option Role)
    (ids : List (Option Identity)) : (b.removeIdentity role ids).1.bindings.Apart := by
  unfold removeIdentity
  split
  · exact hb
  · split
    · exact hb
    · next r =>
      split
      · exact hb
      · next hr =>
        have hr : r.hashable = true := by simpa using hr
        have hms := hb.find?_members r
        split
        · exact hb
        · next ms hfind =>
          rw [hfind, Option.getD_some] at hms
          have hrest := withdraw_sound ids hms
          split
          · next hstops => exact hb.put hr (by simpa [hstops] using hrest)
          · exact hb.erase r
          · next hleaves => exact hb.put hr (by simpa [hleaves] using hrest)

/-- Only the bindings are changed by a removal, however far it goes. -/
private theorem exists_removeIdentity_eq (b : Builder) (role : Option Role)
    (ids : List (Option Identity)) :
    ∃ bs, (b.removeIdentity role ids).1 = { b with bindings := bs } := by
  unfold removeIdentity
  split
  · exact ⟨_, rfl⟩
  · split
    · exact ⟨_, rfl⟩
    · split
      · exact ⟨_, rfl⟩
      · split
        · exact ⟨_, rfl⟩
        · split <;> exact ⟨_, rfl⟩

/-! ### Runs -/

/-- A change that happens as a whole or not at all keeps what it keeps when it happens. -/
private theorem settle_keeps {P : Builder → Prop} {b : Builder} (hb : P b)
    {r : Except Failure Builder} (hr : ∀ b', r = .ok b' → P b') : P (b.settle r).1 := by
  cases r with
  | error e => exact hb
  | ok b' => exact hr b' rfl

/-- A call keeps what grants and removals keep and what given bindings have, whether it fails or
not. -/
private theorem apply_keeps {P : Bindings → Prop} {b : Builder} (hb : P b.bindings)
    (hgrant : ∀ (r : Role) (ids : List Identity), r.hashable = true →
      (∀ i ∈ ids, i.hashable = true) → ids ≠ [] → P (b.bindings.grant r ids))
    (herase : ∀ r, P (b.bindings.erase r)) (hsound : ∀ bs : Bindings, bs.Sound → P bs) (c : Call)
    (hremove : ∀ role ids, c = .removeIdentity role ids →
      P (b.removeIdentity role ids).1.bindings) : P (b.apply c).1.bindings := by
  cases c with
  | addIdentity role ids =>
    refine settle_keeps (P := fun b => P b.bindings) hb fun b' h => ?_
    obtain ⟨r, js, -, -, hne, hr, hids, rfl⟩ := addIdentity_eq_ok_iff.mp h
    exact hgrant r _ hr (Members.Sound.union hids Members.Sound.nil).hashable
      (Bindings.union_ne_nil (.inr hne))
  | removeIdentity role ids => exact hremove role ids rfl
  | removeRole role =>
    refine settle_keeps (P := fun b => P b.bindings) hb fun b' h => ?_
    rcases removeRole_cases h with rfl | ⟨r, rfl⟩
    · exact hb
    · exact herase r
  | setBindings gs =>
    refine settle_keeps (P := fun b => P b.bindings) hb fun b' h => ?_
    obtain ⟨bs, hbs, rfl⟩ := setBindings_cases h
    exact hsound bs hbs
  | setEtag etag => exact hb
  | setVersion version => exact hb

/-- **One call.** A call keeps bindings sound, whether it fails or not, if it removes no identity
that cannot be an element of a set. -/
theorem apply_sound {b : Builder} (hb : b.bindings.Sound) {c : Call}
    (hc : ∀ i, c.Removes i → i.hashable = true) : (b.apply c).1.bindings.Sound := by
  refine apply_keeps hb (fun r ids hr hids hne => hb.grant hr hids hne) hb.erase
    (fun bs hbs => hbs) c ?_
  rintro role ids rfl
  exact removeIdentity_sound hb hc

/-- **Any call** keeps roles and members apart, a removal that stops half-way as well. -/
theorem apply_apart {b : Builder} (hb : b.bindings.Apart) (c : Call) :
    (b.apply c).1.bindings.Apart :=
  apply_keeps hb (fun _ _ hr hids _ => hb.grant hr hids) hb.erase (fun _ hbs => hbs.apart) c
    fun role ids _ => removeIdentity_apart hb role ids

/-- The builder after calls in turn. A call that fails leaves what it leaves, and the next one
follows. -/
def run (b : Builder) (calls : List Call) : Builder := calls.foldl (fun b c => (b.apply c).1) b

/-- **Runs.** A run of such calls keeps bindings sound. -/
theorem run_sound {b : Builder} (hb : b.bindings.Sound) {calls : List Call}
    (hcalls : ∀ c ∈ calls, ∀ i, c.Removes i → i.hashable = true) :
    (b.run calls).bindings.Sound := by
  unfold run
  induction calls generalizing b with
  | nil => exact hb
  | cons c rest ih =>
    exact ih (apply_sound hb (hcalls c (by simp))) fun d hd => hcalls d (by simp [hd])

theorem run_apart {b : Builder} (hb : b.bindings.Apart) (calls : List Call) :
    (b.run calls).bindings.Apart := by
  unfold run
  induction calls generalizing b with
  | nil => exact hb
  | cons c rest ih => exact ih (apply_apart hb c)

/-- The entity tag that a call sets. -/
def Call.etag? : Call → Option Value
  | .setEtag etag => some etag
  | _ => none

/-- The version that a call sets. -/
def Call.version? : Call → Option Value
  | .setVersion version => some version
  | _ => none

/-- **What a call leaves.** Tag and version are changed by the calls that set them, and the family
by none. -/
theorem exists_apply_eq (b : Builder) (c : Call) : ∃ bs,
    (b.apply c).1 = ⟨b.family, bs, c.etag?.getD b.etag, c.version?.getD b.version⟩ := by
  cases c with
  | addIdentity role ids =>
    refine settle_keeps (P := fun b' => ∃ bs, b' = { b with bindings := bs }) ⟨_, rfl⟩
      fun b' h => ?_
    obtain ⟨_, _, -, -, -, -, -, rfl⟩ := addIdentity_eq_ok_iff.mp h
    exact ⟨_, rfl⟩
  | removeIdentity role ids => exact b.exists_removeIdentity_eq role ids
  | removeRole role =>
    refine settle_keeps (P := fun b' => ∃ bs, b' = { b with bindings := bs }) ⟨_, rfl⟩
      fun b' h => ?_
    rcases removeRole_cases h with rfl | ⟨r, rfl⟩ <;> exact ⟨_, rfl⟩
  | setBindings gs =>
    refine settle_keeps (P := fun b' => ∃ bs, b' = { b with bindings := bs }) ⟨_, rfl⟩
      fun b' h => ?_
    obtain ⟨bs, -, rfl⟩ := setBindings_cases h
    exact ⟨bs, rfl⟩
  | setEtag etag => exact ⟨_, rfl⟩
  | setVersion version => exact ⟨_, rfl⟩

/-- A call leaves the family of a builder. -/
theorem apply_family (b : Builder) (c : Call) : (b.apply c).1.family = b.family := by
  obtain ⟨bs, h⟩ := b.exists_apply_eq c
  rw [h]

theorem run_family (b : Builder) (calls : List Call) : (b.run calls).family = b.family := by
  unfold run
  induction calls generalizing b with
  | nil => rfl
  | cons c rest ih => rw [List.foldl_cons, ih, apply_family]

/-- What single calls set anew or leave, a run leaves as it was set last. -/
private theorem run_last {f : Builder → Value} {g : Call → Option Value}
    (hset : ∀ b c, f (apply b c).1 = (g c).getD (f b)) (b : Builder) (calls : List Call) :
    f (b.run calls) = (calls.filterMap g).getLastD (f b) := by
  unfold run
  induction calls generalizing b with
  | nil => rfl
  | cons c rest ih =>
    rw [List.foldl_cons, ih, hset, List.filterMap_cons]
    cases g c with
    | none => rfl
    | some v => exact (List.getLastD_cons ..).symm

/-- The tag after a run is the last one that was set. -/
theorem run_etag (b : Builder) (calls : List Call) :
    (b.run calls).etag = (calls.filterMap Call.etag?).getLastD b.etag :=
  run_last (f := Builder.etag) (fun b c => by obtain ⟨bs, h⟩ := b.exists_apply_eq c; rw [h]) b calls

/-- The version after a run is the last one that was set. -/
theorem run_version (b : Builder) (calls : List Call) :
    (b.run calls).version = (calls.filterMap Call.version?).getLastD b.version :=
  run_last (f := Builder.version) (fun b c => by obtain ⟨bs, h⟩ := b.exists_apply_eq c; rw [h]) b
    calls

/-! ### Rebuilding -/

/-- Sound bindings are read as they are, after those read so far. -/
theorem readGrants_toGrants {bs acc : Bindings} (h : Bindings.Sound (acc ++ bs)) :
    readGrants bs.toGrants acc = .ok (acc ++ bs) := by
  induction bs generalizing acc with
  | nil => simp [Bindings.toGrants, readGrants]
  | cons e rest ih =>
    obtain ⟨r, ms⟩ := e
    have hmem : (r, ms) ∈ acc ++ (r, ms) :: rest := by simp
    have hms : Members.Sound ms := h.members hmem
    have hcollect : Supply.collect (Supply.ofMembers ms) = .ok ms := by
      have hself : Members.union [] ms = ms := Members.union_self_of_differ hms.differ
      rw [Supply.collect_ofMembers hms.hashable, hself]
    -- no role repeats, so each one is appended
    have hput : acc.put r ms = acc ++ [(r, ms)] := by
      have hnew : ∀ x ∈ acc, x.1.same r = false := fun x hx =>
        (List.pairwise_append.mp h.roles_differ).2.2 x hx (r, ms) (by simp)
      exact Bindings.put_of_find?_eq_none (Bindings.find?_eq_none.mpr hnew) ms
    have hgo : readGrants (Bindings.toGrants ((r, ms) :: rest)) acc =
        readGrants (Bindings.toGrants rest) (acc.put r ms) := by
      rw [Bindings.toGrants, List.map_cons, readGrants, hcollect]
      cases ms with
      | nil => exact absurd rfl (h.members_ne_nil _ hmem)
      | cons i ms => simp only [h.role_hashable _ hmem, if_true, Bindings.toGrants]
    have happend : acc ++ (r, ms) :: rest = acc ++ [(r, ms)] ++ rest := by simp
    rw [happend] at h ⊢
    rw [hgo, hput, ih h]

/-- A builder is made with sound bindings, whatever it is made from. -/
theorem make_sound {family : Family} {grants : Option Grants} {etag version : Value} {b : Builder}
    (h : make family grants etag version = .ok b) : b.bindings.Sound := by
  unfold make at h
  split at h
  · obtain rfl := Except.ok.inj h
    exact Bindings.Sound.nil
  · obtain ⟨bs, hbs, rfl⟩ := setBindings_cases h
    exact hbs

/-- A builder made from sound bindings has just these. -/
theorem make_of_sound {bs : Bindings} (h : bs.Sound) (family : Family) (etag version : Value) :
    make family (some bs.toGrants) etag version = .ok ⟨family, bs, etag, version⟩ := by
  have hread : readGrants bs.toGrants [] = .ok bs := by
    simpa using @readGrants_toGrants bs [] h
  simp [make, setBindings, hread]

end Builder

/-- **Rebuilding.** A policy with sound bindings gives a builder with just its parts. -/
theorem Policy.toBuilder_of_sound {p : Policy} (h : p.bindings.Sound) :
    p.toBuilder = .ok ⟨p.family, p.bindings, p.etag, p.version⟩ :=
  Builder.make_of_sound h _ _ _

/-- A tag or version that is the same as itself equals itself, unless it is no number. -/
theorem Policy.sameField_of_same {v : Value} (h : v.same v = true)
    (hv : v ≠ .float .notANumber) : sameField v v = true := by
  unfold sameField
  split
  · exact absurd rfl hv
  · exact h

/-- Nothing but itself equals null or a text as a tag. -/
theorem Policy.sameField_iff_of_text {a b : Value} (ha : a = .null ∨ ∃ s, a = .text s) :
    sameField a b = true ↔ a = b := by
  rcases ha with rfl | ⟨s, rfl⟩
  · exact Value.same_null_left.trans eq_comm
  · exact Value.same_text_left.trans eq_comm

/-- Of versions that are null or integers, each equals itself only. -/
theorem Policy.sameField_iff_of_int {a b : Value} (ha : a = .null ∨ ∃ n, a = .int n)
    (hb : b = .null ∨ ∃ n, b = .int n) : sameField a b = true ↔ a = b := by
  rcases ha with rfl | ⟨n, rfl⟩
  · exact Value.same_null_left.trans eq_comm
  · have hkey : sameField (.int n) b = true ↔ (Value.int n).key = b.key := Value.same_iff_key rfl
    rw [hkey]
    rcases hb with rfl | ⟨m, rfl⟩ <;> simp [Value.key]

/-! ### Revocations of given identities -/

namespace Builder

/-- What a revocation does to bindings. -/
theorem removeIdentity_of_all_hashable {b : Builder} {r : Role} (hr : r.hashable = true)
    {ids : List Identity} (hids : ∀ i ∈ ids, i.hashable = true) (hne : ids ≠ []) :
    b.removeIdentity (some r) (ids.map some) =
      ({ b with bindings := b.bindings.revoke r ids }, none) := by
  have hsome : (ids.map some).filterMap id = ids := by simp
  rw [removeIdentity_of_hashable hr (by simpa using hne) (by simpa using hids), hsome]

end Builder

end AccessPolicy
