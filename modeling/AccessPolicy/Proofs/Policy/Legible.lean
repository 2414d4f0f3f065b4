import AccessPolicy.Proofs.Policy.Writing
import AccessPolicy.Service.Access

/-!
# Changes of legible policies

A policy that was read can be written and read again. Granting a role keeps it so exactly if the
role and the identities granted are legible themselves; revoking always does. Whether a role or an
identity is legible depends on its key alone, so it makes no difference which of several equal ones
was there first.

* `Policy.legible_of_decode`: what was read is legible;
* `Bindings.legible_grant_iff`: when bindings are legible after a grant;
* `Handle.legible_changed_granting_iff`, `Handle.legible_changed_revoking`: the same for the changes
  that operations make.
-/

namespace AccessPolicy

/-! ### Legible roles and identities -/

/-- A role whose name can be read back. -/
structure Role.Legible (r : Role) : Prop where
  /-- The name is not empty, zero or null. -/
  named : r.name.truthy = true
  /-- The name names a role that may be a key. -/
  readable : ∃ r', Role.ofValue r.name = .ok r' ∧ r'.hashable = true

namespace Role

/-- The role that a non-empty name stands for is legible. -/
theorem legible_of_ofValue {v : Value} {r : Role} (h : ofValue v = .ok r)
    (hr : r.hashable = true) (hv : v.truthy = true) : r.Legible := by
  rcases ofValue_cases h with ⟨s, rfl⟩ | ⟨-, hname⟩
  · obtain rfl := Except.ok.inj h
    have hslash := slash_mem_fullName s
    refine ⟨?_, _, rfl, rfl⟩
    have hne : fullName s ≠ "" := fun hnil => by simp [hnil] at hslash
    simpa [Value.truthy] using hne
  · exact ⟨hname ▸ hv, r, hname ▸ h, hr⟩

private theorem eq_pair_of_key {v : Value} {k l : Value.Key} (h : v.key = .pair k l) :
    ∃ x y, v = .pair x y := by
  cases v with
  | pair x y => exact ⟨x, y, rfl⟩
  | float x => cases x <;> simp [Value.key, Binary64.key] at h
  | _ => simp [Value.key] at h

/-- Whether a pair contains a slash depends on its key. -/
private theorem containsSlash_congr {a b c d : Value}
    (h : (Value.pair a b).key = (Value.pair c d).key) :
    containsSlash (.pair a b) = containsSlash (.pair c d) := by
  have htext : ∀ {x y : Value}, x.key = y.key →
      Value.same (.text "/") x = Value.same (.text "/") y := fun {x y} hxy => by
    rw [Bool.eq_iff_iff, Value.same_iff_key rfl, Value.same_iff_key rfl, hxy]
  obtain ⟨h1, h2⟩ : a.key = c.key ∧ b.key = d.key := by simpa [Value.key] using h
  rw [containsSlash, containsSlash, htext h1, htext h2]

/-- Of roles that are the same, one is legible if the other is. -/
theorem Legible.congr {a b : Role} (h : a.Legible) (ha : a.hashable = true)
    (hb : b.hashable = true) (hab : a.same b = true) : b.Legible := by
  obtain ⟨hnamed, r, hread, hr⟩ := h
  rw [same_iff_key ha] at hab
  -- a pair may hold a slash as well as a text, and only texts of one key are the same text
  by_cases hpair : ∃ x y, a.name = .pair x y
  · obtain ⟨x, y, hx⟩ := hpair
    obtain ⟨x', y', hy⟩ := eq_pair_of_key (hab.symm.trans (congrArg Value.key hx))
    have hslash : containsSlash (.pair x y) = some true := by
      rcases ofValue_cases hread with ⟨s, hs⟩ | ⟨h, -⟩
      · simp [hx] at hs
      · simpa [hx, Value.opened] using h
    have hkey : (Value.pair x y).key = (Value.pair x' y').key := by rw [← hx, ← hy]; exact hab
    have hslash' : containsSlash (.pair x' y') = some true := containsSlash_congr hkey ▸ hslash
    refine ⟨by simp [hy, Value.truthy], { name := b.name }, ?_, hb⟩
    simp [hy, ofValue, Value.opened, hslash']
  · have htext : ∃ s, a.name = .text s := by
      rcases ofValue_cases hread with hs | ⟨hslash, -⟩
      · exact hs
      · rw [Role.hashable] at ha
        cases hname : a.name with
        | text s => exact ⟨s, rfl⟩
        | pair x y => exact absurd ⟨x, y, hname⟩ hpair
        | _ => simp_all [containsSlash, Value.hashable, Value.opened]
    obtain ⟨s, hs⟩ := htext
    have hname : b.name = a.name := by
      rw [← same_iff_key ha, same_iff_of_text hs] at hab
      rw [hab, hs]
    exact ⟨hname ▸ hnamed, r, hname ▸ hread, hr⟩

end Role

/-- Of identities that are the same, one is legible if the other is. -/
theorem Identity.Legible.congr {a b : Identity} (h : a.Legible) (hab : a.same b = true) :
    b.Legible := by
  by_contra hb
  obtain ⟨hk, hv⟩ : ¬ b.kind.isWildcard = true ∧ b.value = .text "" := by
    simpa [Identity.Legible] using hb
  obtain rfl := (Textual.same_iff (.inr ⟨"", hv⟩)).mp hab
  exact hb h

/-! ### Grants -/

namespace Bindings

/-- Bindings that can be read back. -/
def Legible (bs : Bindings) : Prop := ∀ e ∈ bs, Policy.LegibleEntry e

/-- **Grants.** Legible bindings stay so exactly if the role granted and the identities are
legible. -/
theorem legible_grant_iff {bs : Bindings} (hbs : bs.Sound) (h : bs.Legible) {r : Role}
    (hr : r.hashable = true) {ids : List Identity} (hids : ∀ i ∈ ids, i.hashable = true)
    (hne : ids ≠ []) : (bs.grant r ids).Legible ↔ r.Legible ∧ ∀ i ∈ ids, i.Legible := by
  have hgrant := hbs.grant hr hids hne
  constructor
  · intro hl
    -- each identity granted is in the entry of the role
    have hentry : ∀ i ∈ ids, r.Legible ∧ i.Legible := by
      intro i hi
      have hself : r.same r = true := (Role.same_iff_key hr).mpr rfl
      obtain ⟨e, he, her, hhas⟩ := (holds_grant hbs.apart hr hids r i).mpr
        (.inr ⟨hself, Members.has_of_mem hids hi⟩)
      obtain ⟨m, hm, hmi⟩ := Members.has_iff.mp hhas
      have hle := hl e he
      have hrole : e.1.Legible := ⟨hle.named, hle.role (List.ne_nil_of_mem hm)⟩
      exact ⟨hrole.congr (hgrant.role_hashable e he) hr her, (hle.members m hm).congr hmi⟩
    obtain ⟨i, hi⟩ := List.exists_mem_of_ne_nil _ hne
    exact ⟨(hentry i hi).1, fun j hj => (hentry j hj).2⟩
  · rintro ⟨hrole, hmembers⟩ x hx
    rcases mem_put hx with hx | ⟨h2, h1⟩
    · exact h x hx
    · have hlegible : x.1.Legible := by
        rcases h1 with h1 | ⟨e, he, h1⟩
        · exact h1 ▸ hrole
        · exact h1 ▸ ⟨(h e he).named, (h e he).role (hbs.members_ne_nil e he)⟩
      refine ⟨hlegible.named, fun _ => hlegible.readable, fun i hi => ?_⟩
      rw [h2] at hi
      rcases Members.mem_union hi with hi | hi
      · cases hf : bs.find? r with
        | none => simp [hf] at hi
        | some ms =>
          obtain ⟨e, he, -, rfl⟩ := find?_eq_some hf
          exact (h e he).members i (by simpa [hf] using hi)
      · exact hmembers i hi

end Bindings

namespace Policy

/-- **What was read is legible.** -/
theorem legible_of_decode {document : Value} {p : Policy} (h : decode document = .ok p) :
    p.Legible := by
  obtain ⟨fields, -, h⟩ := opened_of_decode h
  obtain ⟨⟨items, -, hbs⟩, hversion, -⟩ := decode_map_eq_ok_iff.mp h
  refine ⟨?_, _, decodeVersion_of_cases (decodeVersion_cases hversion)⟩
  refine (decodeBindings_keeps (P := fun bs => bs.Sound ∧ bs.Legible) hbs
    (fun v _ bs bs' hdec hkept => ?_) ⟨Bindings.Sound.nil, by simp [Bindings.Legible]⟩).2
  obtain ⟨hsound, hlegible⟩ := hkept
  rcases decodeBinding_cases hdec with rfl | ⟨fields, r, ids, -, hnamed, hrole, hr, hne, hids, rfl⟩
  · exact ⟨hsound, hlegible⟩
  · have hhashable : ∀ i ∈ ids, i.hashable = true := fun i hi => (hids i hi).textual.hashable
    exact ⟨hsound.grant hr hhashable hne,
      (Bindings.legible_grant_iff hsound hlegible hr hhashable hne).mpr
        ⟨Role.legible_of_ofValue hrole hr hnamed, fun i hi => (hids i hi).legible⟩⟩

end Policy

/-! ### The changes of operations -/

namespace Handle

/-- The change that grants a role, if it does not fail. -/
theorem changed_granting {p q : Policy} (hp : p.bindings.Sound) {r : Role} {ids : List Identity}
    (hne : ids ≠ []) (h : Edit.changed (granting r ids) p = .ok q) :
    r.hashable = true ∧ (∀ i ∈ ids, i.hashable = true) ∧
      q = { p with bindings := p.bindings.grant r (Members.union [] ids) } := by
  rw [Edit.changed, Policy.toBuilder_of_sound hp] at h
  simp only [granting] at h
  have hempty : (ids.map some).isEmpty = false := by simpa using hne
  have hmap : (ids.map some).map .ok = Supply.ofMembers ids := by rw [List.map_map]; rfl
  by_cases hids : ∀ i ∈ ids, i.hashable = true
  · by_cases hr : r.hashable = true
    · rw [Builder.addIdentity_of_hashable hr hids hne] at h
      exact ⟨hr, hids, (Except.ok.inj h).symm⟩
    · simp [Builder.addIdentity, hempty, hmap, Supply.collect_ofMembers hids, hr] at h
  · have hbad : ∃ i ∈ ids, i.hashable = false := by simpa using hids
    simp [Builder.addIdentity, hempty, hmap, Supply.collect_ofMembers_of_unhashable hbad] at h

/-- **Grants.** The policy that a grant makes of one that was read is legible exactly if the role
and the identities are. -/
theorem legible_changed_granting_iff {p q : Policy} (hp : p.bindings.Sound) (hl : p.Legible)
    {r : Role} {ids : List Identity} (hne : ids ≠ [])
    (h : Edit.changed (granting r ids) p = .ok q) :
    q.Legible ↔ r.Legible ∧ ∀ i ∈ ids, i.Legible := by
  obtain ⟨hr, hids, rfl⟩ := changed_granting hp hne h
  have hsound := Members.Sound.union hids Members.Sound.nil
  have hunion : (∀ i ∈ Members.union [] ids, i.Legible) ↔ ∀ i ∈ ids, i.Legible := by
    refine ⟨fun h i hi => ?_, fun h i hi => h i ((Members.mem_union hi).resolve_left (by simp))⟩
    obtain ⟨m, hm, hmi⟩ := Members.has_iff.mp
      ((Members.has_union_nil hids i).trans (Members.has_of_mem hids hi))
    exact (h m hm).congr hmi
  have hgrant := Bindings.legible_grant_iff hp hl.entries hr hsound.hashable
    (Bindings.union_ne_nil (.inr hne))
  rw [← hunion, ← hgrant]
  exact ⟨fun h => h.entries, fun h => ⟨h, hl.version⟩⟩

private theorem withdraw_subset {ms rest : Members} {ids : List (Option Identity)}
    {e : Option Failure} (h : Builder.withdraw ms ids = (rest, e)) : ∀ i ∈ rest, i ∈ ms := by
  induction ids generalizing ms with
  | nil =>
    obtain ⟨rfl, -⟩ : ms = rest ∧ none = e := by simpa [Builder.withdraw] using h
    exact fun i hi => hi
  | cons id ids ih =>
    cases id with
    | none => exact ih (by simpa [Builder.withdraw] using h)
    | some j =>
      rw [Builder.withdraw] at h
      split at h
      · exact fun i hi => List.mem_of_mem_filter (ih h i hi)
      · obtain ⟨rfl, -⟩ : ms = rest ∧ some Failure.wrongKind = e := by simpa using h
        exact fun i hi => hi

/-- What a removal leaves is of the roles that were there, with members that they had. -/
private theorem removeIdentity_subset {b b' : Builder} {r : Role} {ids : List (Option Identity)}
    {e : Option Failure} (h : b.removeIdentity (some r) ids = (b', e)) :
    b'.version = b.version ∧
      ∀ x ∈ b'.bindings, ∃ y ∈ b.bindings, x.1 = y.1 ∧ ∀ i ∈ x.2, i ∈ y.2 := by
  have hkept : ∀ x ∈ b.bindings, ∃ y ∈ b.bindings, x.1 = y.1 ∧ ∀ i ∈ x.2, i ∈ y.2 := fun x hx =>
    ⟨x, hx, rfl, fun i hi => hi⟩
  have hput : ∀ {ms rest : Members}, b.bindings.find? r = some ms → (∀ i ∈ rest, i ∈ ms) →
      ∀ x ∈ b.bindings.put r rest, ∃ y ∈ b.bindings, x.1 = y.1 ∧ ∀ i ∈ x.2, i ∈ y.2 := by
    intro ms rest hfind hrest x hx
    rcases Bindings.mem_put_of_find? hfind hx with hx | ⟨h2, hy⟩
    · exact hkept x hx
    · exact ⟨_, hy, rfl, fun i hi => hrest i (h2 ▸ hi)⟩
  unfold Builder.removeIdentity at h
  split at h
  · obtain rfl := (Prod.mk.inj h).1
    exact ⟨rfl, hkept⟩
  · dsimp only at h
    split at h
    · obtain rfl := (Prod.mk.inj h).1
      exact ⟨rfl, hkept⟩
    · split at h
      · obtain rfl := (Prod.mk.inj h).1
        exact ⟨rfl, hkept⟩
      · next ms hfind =>
        split at h
        · next rest e' hrest =>
          obtain rfl := (Prod.mk.inj h).1
          exact ⟨rfl, hput hfind (withdraw_subset hrest)⟩
        · obtain rfl := (Prod.mk.inj h).1
          exact ⟨rfl, fun x hx => hkept x (List.mem_of_mem_filter hx)⟩
        · next i rest hrest =>
          obtain rfl := (Prod.mk.inj h).1
          exact ⟨rfl, hput hfind (withdraw_subset hrest)⟩

/-- **Revocations.** The policy that a revocation makes of one that was read is legible, whatever is
revoked. -/
theorem legible_changed_revoking {p q : Policy} (hp : p.bindings.Sound) (hl : p.Legible)
    {r : Role} {ids : List Identity} (h : Edit.changed (revoking r ids) p = .ok q) :
    q.Legible := by
  rw [Edit.changed, Policy.toBuilder_of_sound hp] at h
  simp only [revoking] at h
  split at h
  · simp at h
  · next b hb =>
    split at hb
    · next b' hremove =>
      obtain rfl := Except.ok.inj hb
      obtain rfl := Except.ok.inj h
      obtain ⟨hversion, hsub⟩ := removeIdentity_subset hremove
      refine ⟨fun x hx => ?_, ?_⟩
      · obtain ⟨y, hy, hrole, hmembers⟩ := hsub x hx
        have hle := hl.entries y hy
        exact ⟨hrole ▸ hle.named,
          fun hne => hrole ▸ hle.role fun hnil => hne (by
            rw [hnil] at hmembers
            exact List.eq_nil_iff_forall_not_mem.mpr fun i hi => by simpa using hmembers i hi),
          fun i hi => hle.members i (hmembers i hi)⟩
      · obtain ⟨v, hv⟩ := hl.version
        exact ⟨v, (congrArg Policy.decodeVersion hversion).trans hv⟩
    · simp at hb

end Handle

end AccessPolicy
