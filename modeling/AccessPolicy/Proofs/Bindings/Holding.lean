import AccessPolicy.Bindings
import AccessPolicy.Proofs.Value.Key
import Mathlib.Data.List.Nodup
import Mathlib.Data.List.Perm.Subperm

/-!
# What bindings hold

Bindings stand for the relation `Bindings.Holds` between roles and identities. Bindings that are
`Bindings.Apart` are made of roles and identities that may be keys, none of them twice; on them each
operation has one equation through the relation. `Bindings.Sound` bindings are well-formed as well:
no role is without members. Equality of bindings is equality of the relations, and of the roles if
some may be without members.

* `Bindings.holds_put`, `Bindings.holds_erase`, `Bindings.holds_grant`, `Bindings.holds_revoke`:
  what the operations do to the relation;
* `Bindings.Apart.put`, `Bindings.Apart.erase`: the operations keep roles and members apart;
* `Bindings.Sound.put`, `Bindings.Sound.erase`, `Bindings.Sound.grant`, `Bindings.Sound.revoke`: the
  operations keep bindings sound, as long as no role is given an empty set of members;
* `Bindings.Apart.same_iff`, `Bindings.same_iff_holds`: bindings are the same exactly when they have
  the same roles and hold the same; if they are sound, when they hold the same.
-/

namespace AccessPolicy

/-! ### Members -/

namespace Members

/-- Members that may be elements of a set, none of them twice. -/
structure Sound (ms : Members) : Prop where
  /-- No member repeats. -/
  differ : ms.Pairwise fun a b => a.same b = false
  /-- Every member may be an element of a set. -/
  hashable : ∀ i ∈ ms, i.hashable = true

theorem has_iff {ms : Members} {i : Identity} : ms.has i = true ↔ ∃ m ∈ ms, m.same i = true := by
  simp [has]

@[simp] theorem has_nil (i : Identity) : has [] i = false := rfl

theorem has_of_mem {ms : Members} (hms : ∀ m ∈ ms, m.hashable = true) {i : Identity} (hi : i ∈ ms) :
    ms.has i = true :=
  has_iff.mpr ⟨i, hi, (Identity.same_iff_key (hms i hi)).mpr rfl⟩

/-- Being a member depends on the key only. -/
theorem has_congr {ms : Members} (hms : ∀ m ∈ ms, m.hashable = true) {i j : Identity}
    (hi : i.hashable = true) (hij : i.same j = true) : ms.has i = ms.has j := by
  rw [Identity.same_iff_key hi] at hij
  rw [Bool.eq_iff_iff, has_iff, has_iff]
  exact exists_congr fun m => and_congr_right fun hm => by
    rw [Identity.same_iff_key (hms m hm), Identity.same_iff_key (hms m hm), hij]

/-- Adding an identity adds it and nothing else. -/
theorem has_insert {ms : Members} (hms : ∀ m ∈ ms, m.hashable = true) {i : Identity}
    (hi : i.hashable = true) (j : Identity) :
    (ms.insert i).has j = true ↔ ms.has j = true ∨ i.same j = true := by
  unfold insert
  split
  · next hmem =>
    refine ⟨.inl, fun h => h.elim id fun hij => ?_⟩
    rwa [← has_congr hms hi hij]
  · simp [has, List.any_append]

theorem mem_insert {ms : Members} {i m : Identity} (h : m ∈ ms.insert i) : m ∈ ms ∨ m = i := by
  unfold insert at h
  split at h
  · exact .inl h
  · simpa using h

theorem mem_union {ids : List Identity} {m : Identity} :
    ∀ {ms : Members}, m ∈ ms.union ids → m ∈ ms ∨ m ∈ ids := by
  unfold Members.union
  induction ids with
  | nil => exact .inl
  | cons i ids ih =>
    intro ms h
    rcases ih h with h | h
    · rcases mem_insert h with h | rfl
      · exact .inl h
      · exact .inr (by simp)
    · exact .inr (by simp [h])

theorem mem_foldl_erase {ids : List Identity} {m : Identity} :
    ∀ {ms : Members}, m ∈ ids.foldl Members.erase ms → m ∈ ms := by
  induction ids with
  | nil => exact id
  | cons i ids ih => exact fun h => List.mem_of_mem_filter (ih h)

theorem Sound.nil : Sound [] := ⟨List.Pairwise.nil, by simp⟩

theorem Sound.insert {ms : Members} (hms : ms.Sound) {i : Identity} (hi : i.hashable = true) :
    (ms.insert i).Sound := by
  refine ⟨?_, fun m hm => (mem_insert hm).elim (hms.hashable m) fun h => h ▸ hi⟩
  unfold Members.insert
  split
  · exact hms.differ
  · next hnew =>
    refine List.pairwise_append.mpr ⟨hms.differ, List.pairwise_singleton _ _, ?_⟩
    intro m hm j hj
    obtain rfl := List.mem_singleton.mp hj
    by_contra hsame
    exact hnew (has_iff.mpr ⟨m, hm, by simpa using hsame⟩)

theorem Sound.union {ids : List Identity} (hids : ∀ i ∈ ids, i.hashable = true) :
    ∀ {ms : Members}, ms.Sound → (ms.union ids).Sound := by
  unfold Members.union
  induction ids with
  | nil => exact fun hms => hms
  | cons i ids ih =>
    intro ms hms
    exact ih (fun j hj => hids j (by simp [hj])) (hms.insert (hids i (by simp)))

/-- A union holds what either part holds. -/
theorem has_union {ids : List Identity} (hids : ∀ i ∈ ids, i.hashable = true) (j : Identity) :
    ∀ {ms : Members}, ms.Sound →
      ((ms.union ids).has j = true ↔ ms.has j = true ∨ has ids j = true) := by
  unfold Members.union
  induction ids with
  | nil => simp
  | cons i ids ih =>
    intro ms hms
    have hi := hids i (by simp)
    rw [List.foldl_cons, ih (fun k hk => hids k (by simp [hk])) (hms.insert hi),
      has_insert hms.hashable hi, or_assoc]
    simp [has]

/-- What identities make when they are added in turn to nothing. -/
theorem has_union_nil {ids : List Identity} (hids : ∀ i ∈ ids, i.hashable = true) (j : Identity) :
    (union [] ids).has j = has ids j := by
  rw [Bool.eq_iff_iff, has_union hids j Sound.nil]
  simp

/-- Members with a text or no value are had exactly if they are listed. -/
theorem has_iff_mem {ms : Members} (hms : ∀ m ∈ ms, m.Textual) {i : Identity} :
    ms.has i = true ↔ i ∈ ms := by
  rw [has_iff]
  constructor
  · rintro ⟨m, hm, hmi⟩
    exact (hms m hm).same_iff_left.mp hmi ▸ hm
  · exact fun hi => ⟨i, hi, (hms i hi).same_iff_left.mpr rfl⟩

/-- Adding what comes of adding identities to others adds the others and the identities. -/
theorem union_union {ids : List Identity} (hids : ∀ i ∈ ids, i.hashable = true) {ms : Members}
    (hms : ms.Sound) : ∀ {acc : Members}, acc.Sound →
      ms.union (acc.union ids) = (ms.union acc).union ids := by
  unfold Members.union
  induction ids with
  | nil => exact fun _ => rfl
  | cons i ids ih =>
    intro acc hacc
    have hi := hids i (by simp)
    have hinsert : (acc.insert i).foldl insert ms = (acc.foldl insert ms).insert i := by
      by_cases hmem : acc.has i = true
      · -- the identity is there on either side
        have hhas : Members.has (acc.foldl insert ms) i = true :=
          (has_union hacc.hashable i hms).mpr (.inr hmem)
        rw [insert, if_pos hmem, insert, if_pos hhas]
      · have happend : acc.insert i = acc ++ [i] := if_neg hmem
        rw [happend, List.foldl_append, List.foldl_cons, List.foldl_nil]
    rw [List.foldl_cons, List.foldl_cons, ih (fun j hj => hids j (by simp [hj])) (hacc.insert hi),
      hinsert]

/-- Adding members to themselves anew, in order, gives them back. -/
theorem union_self_of_differ {ids : List Identity} :
    ∀ {ms : Members}, (ms ++ ids).Pairwise (fun a b => a.same b = false) →
      ms.union ids = ms ++ ids := by
  unfold Members.union
  induction ids with
  | nil => simp
  | cons i ids ih =>
    intro ms h
    -- the identity differs from all before it, so it is appended
    have hnew : ms.has i = false := by
      by_contra hhas
      obtain ⟨m, hm, hsame⟩ := has_iff.mp (by simpa using hhas)
      have := (List.pairwise_append.mp h).2.2 m hm i (by simp)
      simp [this] at hsame
    have hins : ms.insert i = ms ++ [i] := by simp [insert, hnew]
    rw [List.foldl_cons, hins, ih (by simpa using h)]
    simp

theorem Sound.erase {ms : Members} (hms : ms.Sound) (i : Identity) : (ms.erase i).Sound :=
  ⟨hms.differ.filter _, fun m hm => hms.hashable m (List.mem_of_mem_filter hm)⟩

/-- Removing an identity removes it and nothing else. -/
theorem has_erase {ms : Members} (hms : ∀ m ∈ ms, m.hashable = true) {i : Identity}
    (hi : i.hashable = true) (j : Identity) :
    (ms.erase i).has j = true ↔ ms.has j = true ∧ i.same j = false := by
  have hkey : ∀ m ∈ ms, m.same j = true → (m.same i = false ↔ i.same j = false) := by
    intro m hm hmj
    rw [Identity.same_iff_key (hms m hm)] at hmj
    rw [← Bool.not_eq_true, ← Bool.not_eq_true, Identity.same_iff_key (hms m hm),
      Identity.same_iff_key hi, hmj, eq_comm]
  simp only [has_iff, erase, List.mem_filter, Bool.not_eq_true']
  constructor
  · rintro ⟨m, ⟨hm, hmi⟩, hmj⟩
    exact ⟨⟨m, hm, hmj⟩, (hkey m hm hmj).mp hmi⟩
  · rintro ⟨⟨m, hm, hmj⟩, hij⟩
    exact ⟨m, ⟨hm, (hkey m hm hmj).mpr hij⟩, hmj⟩

theorem Sound.foldl_erase (ids : List Identity) :
    ∀ {ms : Members}, ms.Sound → Sound (ids.foldl Members.erase ms) := by
  induction ids with
  | nil => exact fun hms => hms
  | cons i ids ih => exact fun hms => ih (hms.erase i)

theorem has_foldl_erase {ids : List Identity} (hids : ∀ i ∈ ids, i.hashable = true)
    (j : Identity) : ∀ {ms : Members}, ms.Sound →
      (has (ids.foldl erase ms) j = true ↔ ms.has j = true ∧ has ids j = false) := by
  induction ids with
  | nil => simp
  | cons i ids ih =>
    intro ms hms
    rw [List.foldl_cons, ih (fun k hk => hids k (by simp [hk])) (hms.erase i),
      has_erase hms.hashable (hids i (by simp)), and_assoc]
    simp [has]

/-- Being a member is having the key of one. -/
theorem has_iff_mem_keys {ms : Members} (hms : ∀ m ∈ ms, m.hashable = true) {i : Identity} :
    ms.has i = true ↔ i.key ∈ ms.map Identity.key := by
  rw [has_iff, List.mem_map]
  exact exists_congr fun m => and_congr_right fun hm => Identity.same_iff_key (hms m hm)

theorem Sound.keys_nodup {ms : Members} (hms : ms.Sound) : (ms.map Identity.key).Nodup := by
  refine List.pairwise_map.mpr (hms.differ.imp_of_mem fun {a b} ha _ hab hkey => ?_)
  rw [(Identity.same_iff_key (hms.hashable a ha)).mpr hkey] at hab
  exact absurd hab (by simp)

/-- The same members are held by both lists exactly when their keys are the same, in whatever
order. -/
theorem Sound.keys_perm_iff {a b : Members} (ha : a.Sound) (hb : b.Sound) :
    (a.map Identity.key).Perm (b.map Identity.key) ↔ ∀ i, a.has i = true ↔ b.has i = true := by
  rw [List.perm_ext_iff_of_nodup ha.keys_nodup hb.keys_nodup]
  simp only [has_iff_mem_keys ha.hashable, has_iff_mem_keys hb.hashable]
  exact ⟨fun h i => h i.key, fun h k => ⟨fun hk => by
    obtain ⟨i, -, rfl⟩ := List.mem_map.mp hk
    exact (h i).mp hk, fun hk => by
    obtain ⟨i, -, rfl⟩ := List.mem_map.mp hk
    exact (h i).mpr hk⟩⟩

/-- The same members are held by both lists. -/
theorem same_iff_has {a b : Members} (ha : ∀ m ∈ a, m.hashable = true)
    (hb : ∀ m ∈ b, m.hashable = true) :
    Members.same a b = true ↔ ∀ i, a.has i = true ↔ b.has i = true := by
  have hsub : ∀ {x y : Members}, (∀ m ∈ x, m.hashable = true) → (∀ m ∈ y, m.hashable = true) →
      (subset x y = true ↔ ∀ i, x.has i = true → y.has i = true) := by
    intro x y hx hy
    simp only [subset, List.all_eq_true]
    constructor
    · intro h i hi
      obtain ⟨m, hm, hmi⟩ := has_iff.mp hi
      rw [← has_congr hy (hx m hm) hmi]
      exact h m hm
    · exact fun h m hm => h m (has_of_mem hx hm)
  rw [Members.same, Bool.and_eq_true, hsub ha hb, hsub hb ha]
  exact ⟨fun h i => ⟨h.1 i, h.2 i⟩, fun h => ⟨fun i => (h i).mp, fun i => (h i).mpr⟩⟩

end Members

namespace Bindings

/-- Well-formed bindings of roles and identities that may be keys. -/
structure Sound (bs : Bindings) : Prop extends WellFormed bs where
  /-- Every role may be a key. -/
  role_hashable : ∀ e ∈ bs, e.1.hashable = true
  /-- Every member may be an element of a set. -/
  member_hashable : ∀ e ∈ bs, ∀ i ∈ e.2, i.hashable = true

/-- Bindings of roles and identities that may be keys: each role occurs once, and has no member
twice. A role may be without members. -/
structure Apart (bs : Bindings) : Prop where
  /-- No two entries are of the same role. -/
  roles_differ : bs.Pairwise fun a b => a.1.same b.1 = false
  /-- The members may be elements of a set, none of them twice. -/
  members : ∀ e ∈ bs, Members.Sound e.2
  /-- Every role may be a key. -/
  role_hashable : ∀ e ∈ bs, e.1.hashable = true

theorem Sound.apart {bs : Bindings} (h : bs.Sound) : bs.Apart :=
  ⟨h.roles_differ, fun e he => ⟨h.members_differ e he, h.member_hashable e he⟩, h.role_hashable⟩

theorem Apart.sound {bs : Bindings} (h : bs.Apart) (hne : ∀ e ∈ bs, e.2 ≠ []) : bs.Sound :=
  ⟨⟨h.roles_differ, hne, fun e he => (h.members e he).differ⟩, h.role_hashable,
    fun e he => (h.members e he).hashable⟩

theorem Sound.nil : Sound [] :=
  ⟨⟨List.Pairwise.nil, by simp, by simp⟩, by simp, by simp⟩

theorem Sound.members {bs : Bindings} (h : bs.Sound) {e : Role × Members} (he : e ∈ bs) :
    Members.Sound e.2 :=
  h.apart.members e he

theorem Apart.of_cons {e : Role × Members} {bs : Bindings} (h : Apart (e :: bs)) : Apart bs where
  roles_differ := h.roles_differ.of_cons
  members x hx := h.members x (by simp [hx])
  role_hashable x hx := h.role_hashable x (by simp [hx])

/-- The keys of the roles, in order. -/
def keys (bs : Bindings) : List Value.Key := bs.map fun e => e.1.key

theorem Apart.keys_nodup {bs : Bindings} (h : bs.Apart) : bs.keys.Nodup := by
  refine List.pairwise_map.mpr (h.roles_differ.imp_of_mem fun {a b} ha _ hab hkey => ?_)
  rw [(Role.same_iff_key (h.role_hashable a ha)).mpr hkey] at hab
  exact absurd hab (by simp)

/-- Two entries of one role are one entry. -/
theorem Apart.eq_of_key {bs : Bindings} (h : bs.Apart) {e e' : Role × Members} (he : e ∈ bs)
    (he' : e' ∈ bs) (hkey : e.1.key = e'.1.key) : e = e' :=
  List.inj_on_of_nodup_map h.keys_nodup he he' hkey

theorem Holds.hasRole {bs : Bindings} {r : Role} {i : Identity} (h : bs.Holds r i) :
    bs.HasRole r := by
  obtain ⟨e, he, her, -⟩ := h
  exact ⟨e, he, her⟩

theorem Apart.hasRole_of_mem {bs : Bindings} (h : bs.Apart) {e : Role × Members} (he : e ∈ bs) :
    bs.HasRole e.1 :=
  ⟨e, he, (Role.same_iff_key (h.role_hashable e he)).mpr rfl⟩

/-- Which roles are there depends on their keys only. -/
theorem Apart.hasRole_iff_mem_keys {bs : Bindings} (h : bs.Apart) {r : Role} :
    bs.HasRole r ↔ r.key ∈ bs.keys := by
  rw [HasRole, keys, List.mem_map]
  exact exists_congr fun e => and_congr_right fun he => Role.same_iff_key (h.role_hashable e he)

/-! ### Looking up -/

theorem find?_eq_some {bs : Bindings} {r : Role} {ms : Members} (h : bs.find? r = some ms) :
    ∃ e ∈ bs, e.1.same r = true ∧ e.2 = ms := by
  induction bs with
  | nil => simp [find?] at h
  | cons e rest ih =>
    rw [find?] at h
    split at h
    · next hsame => exact ⟨e, by simp, hsame, by simpa using h⟩
    · obtain ⟨x, hx, hxs⟩ := ih h
      exact ⟨x, by simp [hx], hxs⟩

theorem find?_eq_none {bs : Bindings} {r : Role} :
    bs.find? r = none ↔ ∀ e ∈ bs, e.1.same r = false := by
  induction bs with
  | nil => simp [find?]
  | cons e rest ih =>
    rw [find?]
    split <;> simp_all

/-- The entry that a role is found under is its entry. -/
theorem Apart.find?_of_mem {bs : Bindings} (h : bs.Apart) {e : Role × Members} (he : e ∈ bs)
    {r : Role} (hr : e.1.same r = true) : bs.find? r = some e.2 := by
  cases hf : bs.find? r with
  | none => simp [find?_eq_none.mp hf e he] at hr
  | some ms =>
    obtain ⟨x, hx, hxr, rfl⟩ := find?_eq_some hf
    rw [Role.same_iff_key (h.role_hashable e he)] at hr
    rw [Role.same_iff_key (h.role_hashable x hx)] at hxr
    rw [h.eq_of_key hx he (hxr.trans hr.symm)]

/-- Which members a role is found with is what it is held by. -/
theorem Apart.holds_iff_find? {bs : Bindings} (h : bs.Apart) {r : Role} {i : Identity} :
    bs.Holds r i ↔ Members.has ((bs.find? r).getD []) i = true := by
  constructor
  · rintro ⟨e, he, hr, hi⟩
    simpa [h.find?_of_mem he hr] using hi
  · intro hi
    cases hf : bs.find? r with
    | none => simp [hf] at hi
    | some ms =>
      obtain ⟨e, he, hr, rfl⟩ := find?_eq_some hf
      exact ⟨e, he, hr, by simpa [hf] using hi⟩

theorem Apart.find?_members {bs : Bindings} (h : bs.Apart) (r : Role) :
    Members.Sound ((bs.find? r).getD []) := by
  cases hf : bs.find? r with
  | none => exact Members.Sound.nil
  | some ms =>
    obtain ⟨e, he, -, rfl⟩ := find?_eq_some hf
    exact h.members e he

/-- A role has a binding exactly when someone holds it. -/
theorem Sound.hasRole_iff {bs : Bindings} (h : bs.Sound) {r : Role} :
    bs.HasRole r ↔ ∃ i, bs.Holds r i := by
  constructor
  · rintro ⟨e, he, hr⟩
    obtain ⟨i, hi⟩ := List.exists_mem_of_ne_nil _ (h.members_ne_nil e he)
    exact ⟨i, e, he, hr, Members.has_of_mem (h.member_hashable e he) hi⟩
  · exact fun ⟨i, hi⟩ => hi.hasRole

/-- Holding depends on the key of the role only. -/
theorem Apart.holds_congr_role {bs : Bindings} (h : bs.Apart) {r r' : Role} (hr : r.key = r'.key)
    (i : Identity) : bs.Holds r i ↔ bs.Holds r' i :=
  exists_congr fun e => and_congr_right fun he => and_congr_left fun _ => by
    rw [Role.same_iff_key (h.role_hashable e he), Role.same_iff_key (h.role_hashable e he), hr]

/-! ### Replacing and appending -/

theorem mem_put {bs : Bindings} {r : Role} {ms : Members} {x : Role × Members}
    (h : x ∈ bs.put r ms) : x ∈ bs ∨ x.2 = ms ∧ (x.1 = r ∨ ∃ e ∈ bs, x.1 = e.1) := by
  induction bs with
  | nil =>
    obtain rfl : x = (r, ms) := by simpa [put] using h
    exact .inr ⟨rfl, .inl rfl⟩
  | cons e rest ih =>
    rw [put] at h
    split at h
    · rcases List.mem_cons.mp h with rfl | hx
      · exact .inr ⟨rfl, .inr ⟨e, by simp, rfl⟩⟩
      · exact .inl (by simp [hx])
    · rcases List.mem_cons.mp h with rfl | hx
      · exact .inl (by simp)
      · rcases ih hx with hx | ⟨h2, h1 | ⟨y, hy, h1⟩⟩
        · exact .inl (by simp [hx])
        · exact .inr ⟨h2, .inl h1⟩
        · exact .inr ⟨h2, .inr ⟨y, by simp [hy], h1⟩⟩

/-- A role that is found keeps its place and its first form when its members are replaced. -/
theorem mem_put_of_find? {bs : Bindings} {r : Role} {ms ms' : Members} (h : bs.find? r = some ms)
    {x : Role × Members} (hx : x ∈ bs.put r ms') : x ∈ bs ∨ x.2 = ms' ∧ (x.1, ms) ∈ bs := by
  induction bs with
  | nil => simp [find?] at h
  | cons e rest ih =>
    rw [find?] at h
    rw [put] at hx
    split at hx
    · next hsame =>
      obtain rfl : e.2 = ms := by simpa [hsame] using h
      rcases List.mem_cons.mp hx with rfl | hx
      · exact .inr ⟨rfl, by simp⟩
      · exact .inl (by simp [hx])
    · next hsame =>
      rcases List.mem_cons.mp hx with rfl | hx
      · exact .inl (by simp)
      · rcases ih (by simpa [hsame] using h) hx with hx | ⟨h2, h1⟩
        · exact .inl (by simp [hx])
        · exact .inr ⟨h2, by simp [h1]⟩

/-- Replacing the members of a role that is bound keeps the roles and their order. -/
theorem map_fst_put {bs : Bindings} {r : Role} {ms : Members} (h : bs.find? r = some ms)
    (ms' : Members) : (bs.put r ms').map Prod.fst = bs.map Prod.fst := by
  induction bs with
  | nil => simp [find?] at h
  | cons e rest ih =>
    rw [find?] at h
    rw [put]
    split
    · rfl
    · next hne => rw [List.map_cons, ih (by simpa [hne] using h), List.map_cons]

/-- A role that is not bound comes after all others. -/
theorem put_of_find?_eq_none {bs : Bindings} {r : Role} (h : bs.find? r = none) (ms : Members) :
    bs.put r ms = bs ++ [(r, ms)] := by
  induction bs with
  | nil => rfl
  | cons e rest ih =>
    have hall := find?_eq_none.mp h
    have hrest := ih (find?_eq_none.mpr fun x hx => hall x (by simp [hx]))
    simp [put, hall e (by simp), hrest]

private theorem roles_differ_put {bs : Bindings} (r : Role) (ms : Members)
    (h : bs.Pairwise fun a b => a.1.same b.1 = false) :
    (bs.put r ms).Pairwise fun a b => a.1.same b.1 = false := by
  induction bs with
  | nil => simp [put]
  | cons e rest ih =>
    obtain ⟨he, hrest⟩ := List.pairwise_cons.mp h
    rw [put]
    split
    · exact List.pairwise_cons.mpr ⟨he, hrest⟩
    · next hr =>
      refine List.pairwise_cons.mpr ⟨fun x hx => ?_, ih hrest⟩
      rcases mem_put hx with hx | ⟨-, h1 | ⟨y, hy, h1⟩⟩
      · exact he x hx
      · rw [h1]; simpa using hr
      · rw [h1]; exact he y hy

theorem Apart.put {bs : Bindings} (h : bs.Apart) {r : Role} (hr : r.hashable = true)
    {ms : Members} (hms : ms.Sound) : (bs.put r ms).Apart where
  roles_differ := roles_differ_put r ms h.roles_differ
  members x hx := (mem_put hx).elim (h.members x) fun hx => hx.1 ▸ hms
  role_hashable x hx := by
    rcases mem_put hx with hx | ⟨-, h1 | ⟨y, hy, h1⟩⟩
    · exact h.role_hashable x hx
    · exact h1 ▸ hr
    · exact h1 ▸ h.role_hashable y hy

theorem Sound.put {bs : Bindings} (h : bs.Sound) {r : Role} (hr : r.hashable = true)
    {ms : Members} (hms : ms.Sound) (hne : ms ≠ []) : (bs.put r ms).Sound :=
  (h.apart.put hr hms).sound fun x hx =>
    (mem_put hx).elim (h.members_ne_nil x) fun hx => hx.1 ▸ hne

/-- A role that is given members is held by these, and other roles are held as before. -/
theorem holds_put {bs : Bindings} (h : bs.Apart) {r : Role} (hr : r.hashable = true)
    (ms : Members) (r' : Role) (i : Identity) :
    (bs.put r ms).Holds r' i ↔
      if r.same r' = true then ms.has i = true else bs.Holds r' i := by
  induction bs with
  | nil => simp [Bindings.put, Holds]
  | cons e rest ih =>
    have he := h.role_hashable e (by simp)
    have hcons : ∀ (x : Role × Members) (bs : Bindings), Holds (x :: bs) r' i ↔
        x.1.same r' = true ∧ Members.has x.2 i = true ∨ Holds bs r' i := by
      simp [Holds]
    rw [Bindings.put]
    by_cases hsame : e.1.same r = true
    · -- here are the members that are replaced
      have hkey := (Role.same_iff_key he).mp hsame
      have hr' : e.1.same r' = true ↔ r.same r' = true := by
        rw [Role.same_iff_key he, Role.same_iff_key hr, hkey]
      rw [if_pos hsame, hcons, hcons, hr']
      split
      · next hrr =>
        -- no later entry is of the same role
        refine ⟨fun hh => hh.elim And.right fun hrest => ?_, fun hi => .inl ⟨hrr, hi⟩⟩
        obtain ⟨x, hx, hxr, -⟩ := hrest
        have hex := (List.pairwise_cons.mp h.roles_differ).1 x hx
        rw [Role.same_iff_key (h.role_hashable x (by simp [hx])),
          ← (Role.same_iff_key he).mp (hr'.mpr hrr)] at hxr
        rw [(Role.same_iff_key he).mpr hxr.symm] at hex
        exact absurd hex (by simp)
      · next hrr => simp [hrr]
    · -- the entry stays, and it is of another role
      rw [if_neg hsame, hcons, hcons, ih h.of_cons]
      by_cases hrr : r.same r' = true
      · have hne : ¬ e.1.same r' = true := fun her => hsame <| by
          rw [Role.same_iff_key he] at her ⊢
          rw [her, (Role.same_iff_key hr).mp hrr]
        simp [hrr, hne]
      · simp [hrr]

/-! ### Removing -/

theorem Apart.erase {bs : Bindings} (h : bs.Apart) (r : Role) : (bs.erase r).Apart where
  roles_differ := h.roles_differ.filter _
  members x hx := h.members x (List.mem_of_mem_filter hx)
  role_hashable x hx := h.role_hashable x (List.mem_of_mem_filter hx)

theorem Sound.erase {bs : Bindings} (h : bs.Sound) (r : Role) : (bs.erase r).Sound :=
  (h.apart.erase r).sound fun x hx => h.members_ne_nil x (List.mem_of_mem_filter hx)

/-- A role that is removed is held by no one, and other roles are held as before. -/
theorem holds_erase {bs : Bindings} (h : bs.Apart) {r : Role} (hr : r.hashable = true)
    (r' : Role) (i : Identity) :
    (bs.erase r).Holds r' i ↔ bs.Holds r' i ∧ r.same r' = false := by
  have hkey : ∀ e ∈ bs, e.1.same r' = true → (e.1.same r = false ↔ r.same r' = false) := by
    intro e he her
    rw [Role.same_iff_key (h.role_hashable e he)] at her
    rw [← Bool.not_eq_true, ← Bool.not_eq_true, Role.same_iff_key (h.role_hashable e he),
      Role.same_iff_key hr, her, eq_comm]
  simp only [Holds, Bindings.erase, List.mem_filter, Bool.not_eq_true']
  constructor
  · rintro ⟨e, ⟨he, her⟩, her', hi⟩
    exact ⟨⟨e, he, her', hi⟩, (hkey e he her').mp her⟩
  · rintro ⟨⟨e, he, her', hi⟩, hrr⟩
    exact ⟨e, ⟨he, (hkey e he her').mpr hrr⟩, her', hi⟩

/-! ### Granting -/

theorem insert_ne_nil (ms : Members) (i : Identity) : ms.insert i ≠ [] := by
  unfold Members.insert
  split
  · rintro rfl; simp_all
  · simp

theorem union_ne_nil {ms : Members} {ids : List Identity} (h : ms ≠ [] ∨ ids ≠ []) :
    ms.union ids ≠ [] := by
  unfold Members.union
  induction ids generalizing ms with
  | nil => simpa using h
  | cons i ids ih => exact ih (.inl (insert_ne_nil ms i))

theorem Apart.grant {bs : Bindings} (h : bs.Apart) {r : Role} (hr : r.hashable = true)
    {ids : List Identity} (hids : ∀ i ∈ ids, i.hashable = true) : (bs.grant r ids).Apart :=
  h.put hr (Members.Sound.union hids (h.find?_members r))

theorem Sound.grant {bs : Bindings} (h : bs.Sound) {r : Role} (hr : r.hashable = true)
    {ids : List Identity} (hids : ∀ i ∈ ids, i.hashable = true) (hne : ids ≠ []) :
    (bs.grant r ids).Sound :=
  h.put hr (Members.Sound.union hids (h.apart.find?_members r)) (union_ne_nil (.inr hne))

/-- After a grant, the role is held by those that held it and by those it was granted to; other
roles are held as before. -/
theorem holds_grant {bs : Bindings} (h : bs.Apart) {r : Role} (hr : r.hashable = true)
    {ids : List Identity} (hids : ∀ i ∈ ids, i.hashable = true) (r' : Role) (i : Identity) :
    (bs.grant r ids).Holds r' i ↔
      bs.Holds r' i ∨ r.same r' = true ∧ Members.has ids i = true := by
  rw [Bindings.grant, holds_put h hr]
  split
  · next hrr =>
    rw [Members.has_union hids i (h.find?_members r), ← h.holds_iff_find?,
      h.holds_congr_role ((Role.same_iff_key hr).mp hrr)]
    simp [hrr]
  · next hrr => simp [hrr]

/-! ### Revoking -/

/-- Bindings without some identities in one role. A role without members goes. -/
def revoke (bs : Bindings) (r : Role) (ids : List Identity) : Bindings :=
  match bs.find? r with
  | none => bs
  | some ms => match ids.foldl Members.erase ms with
    | [] => bs.erase r
    | i :: rest => bs.put r (i :: rest)

theorem Sound.revoke {bs : Bindings} (h : bs.Sound) {r : Role} (hr : r.hashable = true)
    (ids : List Identity) : (bs.revoke r ids).Sound := by
  have hms := Members.Sound.foldl_erase ids (h.apart.find?_members r)
  unfold Bindings.revoke
  cases hf : bs.find? r with
  | none => exact h
  | some ms =>
    simp only [hf, Option.getD_some] at hms ⊢
    split
    · exact h.erase r
    · next hrest => exact h.put hr (hrest ▸ hms) (by simp)

/-- After a revocation, the role is held by those that held it and were not named; other roles are
held as before. -/
theorem holds_revoke {bs : Bindings} (h : bs.Apart) {r : Role} (hr : r.hashable = true)
    {ids : List Identity} (hids : ∀ i ∈ ids, i.hashable = true) (r' : Role) (i : Identity) :
    (bs.revoke r ids).Holds r' i ↔
      bs.Holds r' i ∧ ¬ (r.same r' = true ∧ Members.has ids i = true) := by
  have hhas := Members.has_foldl_erase hids i (h.find?_members r)
  rw [← h.holds_iff_find?] at hhas
  have hrole : r.same r' = true → (bs.Holds r i ↔ bs.Holds r' i) := fun hrr =>
    h.holds_congr_role ((Role.same_iff_key hr).mp hrr) i
  unfold Bindings.revoke
  cases hf : bs.find? r with
  | none =>
    refine (and_iff_left_of_imp fun hh ⟨hrr, _⟩ => ?_).symm
    rw [← hrole hrr, h.holds_iff_find?, hf] at hh
    simp at hh
  | some ms =>
    simp only [hf, Option.getD_some] at hhas ⊢
    cases hrest : ids.foldl Members.erase ms with
    | nil =>
      -- no one is left, so the role goes
      rw [hrest, Members.has_nil] at hhas
      simp only [Bool.false_eq_true, false_iff] at hhas
      rw [holds_erase h hr]
      refine and_congr_right fun hh => ?_
      by_cases hrr : r.same r' = true
      · simp only [hrr, Bool.true_eq_false, true_and, false_iff, not_not]
        by_contra hno
        exact hhas ⟨(hrole hrr).mpr hh, by simpa using hno⟩
      · simp [hrr]
    | cons m rest =>
      rw [hrest] at hhas
      rw [holds_put h hr]
      split
      · next hrr => rw [hhas, hrole hrr]; simp [hrr]
      · next hrr => simp [hrr]

/-! ### Equality -/

theorem hasRole_iff_find? {bs : Bindings} {r : Role} : bs.HasRole r ↔ bs.find? r ≠ none := by
  rw [Ne, find?_eq_none, HasRole]
  push Not
  simp

/-- An entry has its equal in bindings exactly when its role is there and is held by its members. -/
private theorem entry_subset_iff {b : Bindings} (hb : b.Apart) {e : Role × Members}
    (he : Members.Sound e.2) :
    (match b.find? e.1 with
      | some ms => e.2.same ms
      | none => false) = true ↔ b.HasRole e.1 ∧ ∀ i, e.2.has i = true ↔ b.Holds e.1 i := by
  have hms := hb.find?_members e.1
  rw [hasRole_iff_find?]
  simp only [hb.holds_iff_find?]
  cases hf : b.find? e.1 with
  | none => simp
  | some ms =>
    rw [hf] at hms
    simpa using Members.same_iff_has he.hashable hms.hashable

/-- The bindings of a role are held exactly by its members. -/
theorem Apart.holds_entry {a : Bindings} (ha : a.Apart) {e : Role × Members} (he : e ∈ a)
    (i : Identity) : a.Holds e.1 i ↔ e.2.has i = true := by
  have hself := (Role.same_iff_key (ha.role_hashable e he)).mpr rfl
  rw [ha.holds_iff_find?, ha.find?_of_mem he hself, Option.getD_some]

/-- Bindings are part of others exactly when each of their roles is there, and is held alike. -/
private theorem subset_iff_holds {a b : Bindings} (ha : a.Apart) (hb : b.Apart) :
    a.subset b = true ↔ ∀ e ∈ a, b.HasRole e.1 ∧ ∀ i, a.Holds e.1 i ↔ b.Holds e.1 i := by
  simp only [Bindings.subset, List.all_eq_true]
  refine forall₂_congr fun e he => ?_
  simp only [ha.holds_entry he]
  exact entry_subset_iff hb (ha.members e he)

private theorem keys_subset {a b : Bindings} (hb : b.Apart) (h : ∀ e ∈ a, b.HasRole e.1) :
    a.keys ⊆ b.keys := by
  intro k hk
  obtain ⟨e, he, rfl⟩ := List.mem_map.mp hk
  exact hb.hasRole_iff_mem_keys.mp (h e he)

/-- Bindings have the same roles exactly when their keys are the same, in whatever order. -/
theorem Apart.keys_perm_iff {a b : Bindings} (ha : a.Apart) (hb : b.Apart) :
    a.keys.Perm b.keys ↔ ∀ r, a.HasRole r ↔ b.HasRole r := by
  rw [List.perm_ext_iff_of_nodup ha.keys_nodup hb.keys_nodup]
  constructor
  · intro h r
    rw [ha.hasRole_iff_mem_keys, hb.hasRole_iff_mem_keys]
    exact h r.key
  · exact fun h k => ⟨fun hk => keys_subset hb (fun e he => (h e.1).mp (ha.hasRole_of_mem he)) hk,
      fun hk => keys_subset ha (fun e he => (h e.1).mpr (hb.hasRole_of_mem he)) hk⟩

/-- **Equality of bindings.** Bindings are the same exactly when they have the same roles, held by
the same identities. -/
theorem Apart.same_iff {a b : Bindings} (ha : a.Apart) (hb : b.Apart) :
    a.same b = true ↔ (∀ r, a.HasRole r ↔ b.HasRole r) ∧ ∀ r i, a.Holds r i ↔ b.Holds r i := by
  simp only [Bindings.same, Bool.and_eq_true, beq_iff_eq, subset_iff_holds ha hb]
  constructor
  · rintro ⟨hlen, hentry⟩
    -- as many different keys, all of them among the others: the keys are the same
    have hperm : a.keys.Perm b.keys :=
      (List.subperm_of_subset ha.keys_nodup
        (keys_subset hb fun e he => (hentry e he).1)).perm_of_length_le (by simp [keys, hlen])
    have hroles := (ha.keys_perm_iff hb).mp hperm
    refine ⟨hroles, fun r i => ?_⟩
    by_cases hr : a.HasRole r
    · obtain ⟨e, he, her⟩ := hr
      have hkey := (Role.same_iff_key (ha.role_hashable e he)).mp her
      rw [← ha.holds_congr_role hkey, ← hb.holds_congr_role hkey]
      exact (hentry e he).2 i
    · exact iff_of_false (fun h => hr h.hasRole) fun h => hr ((hroles r).mpr h.hasRole)
  · rintro ⟨hroles, hholds⟩
    have hperm := (ha.keys_perm_iff hb).mpr hroles
    exact ⟨by simpa [keys] using hperm.length_eq,
      fun e he => ⟨(hroles e.1).mp (ha.hasRole_of_mem he), hholds e.1⟩⟩

/-- **Equality of sound bindings.** They are the same exactly when the same roles are held by the
same identities. -/
theorem same_iff_holds {a b : Bindings} (ha : a.Sound) (hb : b.Sound) :
    a.same b = true ↔ ∀ r i, a.Holds r i ↔ b.Holds r i := by
  rw [ha.apart.same_iff hb.apart]
  refine and_iff_right_of_imp fun h r => ?_
  rw [ha.hasRole_iff, hb.hasRole_iff]
  exact exists_congr (h r)

/-- Bindings that are the same as sound ones are sound: no role is without members. -/
theorem Apart.sound_of_same {a b : Bindings} (hb : b.Apart) (ha : a.Sound)
    (h : a.same b = true) : b.Sound := by
  obtain ⟨hroles, hholds⟩ := (ha.apart.same_iff hb).mp h
  refine hb.sound fun e he hnil => ?_
  obtain ⟨i, hi⟩ := ha.hasRole_iff.mp ((hroles e.1).mpr (hb.hasRole_of_mem he))
  simpa [hnil] using (hb.holds_entry he i).mp ((hholds e.1 i).mp hi)

theorem same_comm {a b : Bindings} (ha : a.Sound) (hb : b.Sound) :
    a.same b = true ↔ b.same a = true := by
  rw [same_iff_holds ha hb, same_iff_holds hb ha]
  exact forall₂_congr fun _ _ => iff_comm

theorem same_trans {a b c : Bindings} (ha : a.Sound) (hb : b.Sound) (hc : c.Sound)
    (hab : a.same b = true) (hbc : b.same c = true) : a.same c = true := by
  rw [same_iff_holds ha hb] at hab
  rw [same_iff_holds hb hc] at hbc
  exact (same_iff_holds ha hc).mpr fun r i => (hab r i).trans (hbc r i)

theorem same_self {a : Bindings} (ha : a.Sound) : a.same a = true :=
  (same_iff_holds ha ha).mpr fun _ _ => Iff.rfl

end Bindings

end AccessPolicy
