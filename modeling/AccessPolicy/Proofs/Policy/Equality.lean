import AccessPolicy.Policy.Comparing
import AccessPolicy.Proofs.Policy.Building
import Mathlib.Algebra.BigOperators.Group.List.Basic
import Mathlib.Algebra.Ring.Int.Defs

/-!
# Equality of policies

Policies that builders make are equal exactly if they have the same family, the same roles with the
same members, the same tag and the same version. In which order roles and members came, and which
title and description a role was given, makes no difference. This is an equivalence, and policies
that are equal have one hash, if hashes of values depend on what is the same and those of sets on
their elements only.

* `Policy.Built`: the policies that builders make, whatever calls fail;
* `Policy.Alike`: what equality means;
* `Policy.same_iff_alike`, `Policy.equals_eq_same`, `Policy.differs_eq_not_same`: the comparisons;
* `Policy.Alike.hash_eq`: the hash;
* `Policy.Built.equality`: all of this for policies that builders make.
-/

namespace AccessPolicy

/-! ### Lists by keys -/

/-- Two lists with the same keys, in whatever order, have the same values of a function that depends
on keys only. -/
private theorem perm_map_of_keys {α β κ : Type} {key : α → κ} {f : α → β} {as bs : List α}
    (hkeys : (as.map key).Perm (bs.map key))
    (hf : ∀ a ∈ as, ∀ b ∈ bs, key a = key b → f a = f b) : (as.map f).Perm (bs.map f) := by
  induction as generalizing bs with
  | nil => simp_all
  | cons a as ih =>
    obtain ⟨b, hb, hkey⟩ := List.mem_map.mp (hkeys.subset (List.mem_map_of_mem List.mem_cons_self))
    obtain ⟨before, after, rfl⟩ := List.append_of_mem hb
    -- the element of the same key is taken out of the other list
    have hrest : (as.map key).Perm ((before ++ after).map key) := by
      have hmoved := hkeys.trans (List.perm_middle.map key)
      rw [List.map_cons, List.map_cons, hkey] at hmoved
      exact hmoved.cons_inv
    have hsub := ((List.sublist_cons_self b after).append_left before).subset
    have hperm := ih hrest fun x hx y hy => hf x (List.mem_cons_of_mem _ hx) y (hsub hy)
    rw [List.map_cons, hf a List.mem_cons_self b hb hkey.symm]
    exact (hperm.cons (f b)).trans (List.perm_middle.map f).symm

/-! ### Policies that builders make -/

namespace Policy

/-- The policies that builders make: a builder is made, empty or with given bindings, and called;
calls may fail, and removals may stop half-way. -/
inductive Built : Policy → Prop where
  /-- By calls of a builder. -/
  | run {family : Family} {grants : Option Grants} {etag version : Value} {b : Builder}
    (hmake : Builder.make family grants etag version = .ok b) (calls : List Builder.Call) :
    Built (b.run calls).build

/-- **The invariant of policies that builders make**: roles and members are kept apart. -/
theorem Built.apart {p : Policy} (h : p.Built) : p.bindings.Apart := by
  cases h with
  | run hmake calls => exact Builder.run_apart (Builder.make_sound hmake).apart calls

/-- The tag is null or a text, and the version null or an integer. -/
structure Plain (p : Policy) : Prop where
  /-- The tag is null or a text. -/
  etag : p.etag = .null ∨ ∃ s, p.etag = .text s
  /-- The version is null or an integer. -/
  version : p.version = .null ∨ ∃ n, p.version = .int n

/-- Two policies have the same family, the same roles, held by the same identities, the same tag and
the same version. -/
structure Alike (p q : Policy) : Prop where
  /-- The families are the same. -/
  family : p.family = q.family
  /-- The roles are the same, by their names. -/
  roles : ∀ r, p.bindings.HasRole r ↔ q.bindings.HasRole r
  /-- Each role is held by the same identities. -/
  holds : ∀ r i, p.bindings.Holds r i ↔ q.bindings.Holds r i
  /-- The tags are the same. -/
  etag : p.etag = q.etag
  /-- The versions are the same. -/
  version : p.version = q.version

namespace Alike

variable {p q r : Policy}

theorem refl (p : Policy) : p.Alike p :=
  ⟨rfl, fun _ => Iff.rfl, fun _ _ => Iff.rfl, rfl, rfl⟩

theorem symm (h : p.Alike q) : q.Alike p :=
  ⟨h.family.symm, fun r => (h.roles r).symm, fun r i => (h.holds r i).symm, h.etag.symm,
    h.version.symm⟩

theorem trans (h : p.Alike q) (h' : q.Alike r) : p.Alike r :=
  ⟨h.family.trans h'.family, fun x => (h.roles x).trans (h'.roles x),
    fun x i => (h.holds x i).trans (h'.holds x i), h.etag.trans h'.etag,
    h.version.trans h'.version⟩

end Alike

/-! ### Comparisons -/

/-- **What equality means**: to have the same parts, roles and members in whatever order. -/
theorem same_iff_alike {p q : Policy} (hp : p.bindings.Apart) (hq : q.bindings.Apart)
    (hp' : p.Plain) (hq' : q.Plain) : p.same q = true ↔ p.Alike q := by
  simp only [same, Bool.and_eq_true, beq_iff_eq, hp.same_iff hq,
    sameField_iff_of_text hp'.etag, sameField_iff_of_int hp'.version hq'.version]
  constructor
  · rintro ⟨⟨⟨hfamily, hroles, hholds⟩, hetag⟩, hversion⟩
    exact ⟨hfamily, hroles, hholds, hetag, hversion⟩
  · exact fun h => ⟨⟨⟨h.family, h.roles, h.holds⟩, h.etag⟩, h.version⟩

/-- **To compare for equality**, in either order, is equality. -/
theorem equals_eq_same (p q : Policy) : p.equals q = p.same q := by
  unfold equals answer?
  by_cases h : p.family = q.family
  · simp [h]
  · simp [h, Ne.symm h, same]

/-- **To compare for difference**, in either order, is to compare for equality. -/
theorem differs_eq_not_same (p q : Policy) : p.differs q = !p.same q := by
  unfold differs answer?
  by_cases h : p.family = q.family
  · simp [h]
  · simp [h, Ne.symm h, same]

end Policy

/-! ### Hashes -/

/-- Hashes of values depend on what is the same, and those of sets on the hashes of their elements,
in whatever order. -/
structure Hashing.Lawful (h : Hashing) : Prop where
  /-- Values that are the same have one hash. -/
  value : ∀ {a b : Value}, a.hashable = true → a.same b = true → h.value a = h.value b
  /-- The order of the elements of a set makes no difference. -/
  set : ∀ {xs ys : List Int}, xs.Perm ys → h.set xs = h.set ys

section Hash

variable {h : Hashing} (hlawful : h.Lawful)

include hlawful

/-- Roles of one name have one hash, whatever they show. -/
theorem Role.hash_eq {a b : Role} (ha : a.hashable = true) (hkey : a.key = b.key) (f : Family) :
    a.hash h f = b.hash h f := by
  have hname := hlawful.value ha ((Value.same_iff_key ha).mpr hkey)
  cases f <;> simp [hash, hname]

theorem Identity.hash_eq {a b : Identity} (ha : a.hashable = true) (hkey : a.key = b.key) :
    a.hash h = b.hash h := by
  simp only [key, Prod.mk.injEq] at hkey
  rw [hash, hash, hkey.1, hlawful.value ha ((Value.same_iff_key ha).mpr hkey.2)]

/-- Members that hold the same have one hash. -/
theorem Members.set_hash_eq {a b : Members} (ha : a.Sound) (hb : b.Sound)
    (hsame : ∀ i, a.has i = true ↔ b.has i = true) :
    h.set (a.map fun i => i.hash h) = h.set (b.map fun i => i.hash h) :=
  hlawful.set (perm_map_of_keys ((ha.keys_perm_iff hb).mpr hsame) fun i hi _ _ hkey =>
    Identity.hash_eq hlawful (ha.hashable i hi) hkey)

namespace Policy

/-- Bindings with the same roles, held by the same identities, have one hash. -/
theorem Alike.bindingsHash_eq {p q : Policy} (halike : p.Alike q) (hp : p.bindings.Apart)
    (hq : q.bindings.Apart) : p.bindingsHash h = q.bindingsHash h := by
  rw [bindingsHash, bindingsHash, halike.family]
  refine hlawful.set (perm_map_of_keys ((hp.keys_perm_iff hq).mpr halike.roles) ?_)
  intro e he e' he' hkey
  -- the members of an entry are those that hold its role, whichever of the two roles is its key
  have hmembers : ∀ i, Members.has e.2 i = true ↔ Members.has e'.2 i = true := fun i => by
    rw [← hp.holds_entry he, ← hq.holds_entry he', halike.holds, hq.holds_congr_role hkey]
  rw [Role.hash_eq hlawful (hp.role_hashable e he) hkey,
    Members.set_hash_eq hlawful (hp.members e he) (hq.members e' he') hmembers]

/-- **Equal policies have one hash.** -/
theorem Alike.hash_eq {p q : Policy} (halike : p.Alike q) (hp : p.bindings.Apart)
    (hq : q.bindings.Apart) : p.hash h = q.hash h := by
  have hhashable : p.hashable = q.hashable := by
    rw [hashable, hashable, halike.etag, halike.version]
  rw [hash, hash, hhashable, halike.bindingsHash_eq hlawful hp hq, halike.family, halike.etag,
    halike.version]

end Policy

end Hash

namespace Policy

/-- A policy with a plain tag and version has a hash. -/
theorem Plain.exists_hash {p : Policy} (hp : p.Plain) (h : Hashing) : ∃ n, p.hash h = .ok n := by
  have hhashable : p.hashable = true := by
    rcases hp.etag with he | ⟨s, he⟩ <;> rcases hp.version with hv | ⟨n, hv⟩ <;>
      simp [hashable, he, hv, Value.hashable]
  exact ⟨_, if_pos hhashable⟩

/-- **Equality of policies.** Of policies that builders made, with null or a text for the tag and
null or an integer for the version: they are equal exactly if they have the same family, roles, the
same identities for every role, tag and version. Equality is reflexive, symmetric and transitive, to
differ is its negation, and equal policies have one hash. -/
theorem Built.equality {p q r : Policy} (hp : p.Built) (hq : q.Built) (hr : r.Built)
    (hp' : p.Plain) (hq' : q.Plain) (hr' : r.Plain) :
    (p.equals q = true ↔ p.Alike q) ∧
      p.equals p = true ∧
      (p.equals q = true → q.equals p = true) ∧
      (p.equals q = true → q.equals r = true → p.equals r = true) ∧
      p.differs q = !p.equals q ∧
      ∀ h : Hashing, h.Lawful → p.equals q = true →
        ∃ n, p.hash h = .ok n ∧ q.hash h = .ok n := by
  -- by what equality means, that it is an equivalence is that `Alike` is one
  have halike : ∀ {x y : Policy}, x.Built → y.Built → x.Plain → y.Plain →
      (x.equals y = true ↔ x.Alike y) := fun hx hy hx' hy' => by
    rw [equals_eq_same]
    exact same_iff_alike hx.apart hy.apart hx' hy'
  rw [halike hp hq hp' hq', halike hp hp hp' hp', halike hq hp hq' hp', halike hq hr hq' hr',
    halike hp hr hp' hr', differs_eq_not_same, equals_eq_same]
  refine ⟨Iff.rfl, .refl p, Alike.symm, Alike.trans, rfl, fun h hlawful hpq => ?_⟩
  obtain ⟨n, hn⟩ := hp'.exists_hash h
  exact ⟨n, hn, (hpq.hash_eq hlawful hp.apart hq.apart).symm.trans hn⟩

end Policy

/-! ### Hashes that are lawful -/

/-- A number for a key: texts by their characters, integers by themselves. -/
def Value.Key.code : Value.Key → Int
  | .text s => s.toList.foldl (fun n c => 31 * n + c.toNat) 7
  | .number q => q.num + 1000003 * (q.den - 1)
  | _ => 5

/-- Values are hashed by their keys, tuples by a polynomial in the hashes of their parts, and sets
by a sum. -/
def Hashing.byKeys : Hashing where
  value v := v.key.code
  family f := (Value.Key.text f.name).code
  tuple xs := xs.foldl (fun n x => 31 * n + x) 17
  set xs := xs.sum

theorem Hashing.lawful_byKeys : byKeys.Lawful where
  value ha hsame := congrArg Value.Key.code ((Value.same_iff_key ha).mp hsame)
  set hperm := hperm.sum_eq

namespace Policy

/-- Two policies that are made in different orders, one of them with a title for a role, are equal;
a third one with the same contents is of another family. -/
theorem Built.equality_two_orders :
    let ann : Identity := ⟨.user, .text "ann@example.com"⟩
    let bob : Identity := ⟨.user, .text "bob@example.com"⟩
    let titled : Role := { Role.viewer with title := .text "Viewer" }
    let calls : List Builder.Call := [.addIdentity (some Role.viewer) [some ann, some bob],
      .addIdentity (some Role.editor) [some ann], .setEtag (.text "tag")]
    let p := (Builder.run {} calls).build
    let q := (Builder.run {} [.setEtag (.text "tag"), .addIdentity (some Role.editor) [some ann],
      .addIdentity (some titled) [some bob, some ann, some bob]]).build
    let r := (Builder.run { family := .names } calls).build
    p.bindings = [(Role.viewer, [ann, bob]), (Role.editor, [ann])] ∧
      q.bindings = [(Role.editor, [ann]), (titled, [bob, ann])] ∧
      p.Alike q ∧ p.equals r = false ∧ r.equals p = false ∧
      ∃ n, p.hash Hashing.byKeys = .ok n ∧ q.hash Hashing.byKeys = .ok n := by
  intro ann bob titled calls p q r
  have hp : p.Built := @Built.run .roles none .null .null {} rfl _
  have hq : q.Built := @Built.run .roles none .null .null {} rfl _
  have hr : r.Built := @Built.run .names none .null .null _ rfl _
  have hp' : p.Plain := ⟨.inr ⟨"tag", rfl⟩, .inl rfl⟩
  have hq' : q.Plain := ⟨.inr ⟨"tag", rfl⟩, .inl rfl⟩
  have hr' : r.Plain := ⟨.inr ⟨"tag", rfl⟩, .inl rfl⟩
  have hequals : p.equals q = true := by with_unfolding_all rfl
  have hother : ∀ {x y : Policy}, x.family ≠ y.family → x.equals y = false := fun hne => by
    rw [equals_eq_same]
    simp [same, hne]
  have hfirst : p.bindings = [(Role.viewer, [ann, bob]), (Role.editor, [ann])] := by
    with_unfolding_all rfl
  have hsecond : q.bindings = [(Role.editor, [ann]), (titled, [bob, ann])] := by
    with_unfolding_all rfl
  obtain ⟨halike, -, -, -, -, hhash⟩ := hp.equality hq hr hp' hq' hr'
  exact ⟨hfirst, hsecond, halike.mp hequals, hother (fun h => by cases h),
    hother (fun h => by cases h), hhash Hashing.byKeys Hashing.lawful_byKeys hequals⟩

end Policy

end AccessPolicy
