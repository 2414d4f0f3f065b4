import AccessPolicy.Proofs.Policy.Reachable
import AccessPolicy.Proofs.Policy.RoundTrip
import AccessPolicy.Proofs.Text.Order

/-!
# The canonical form of policies

The document of a policy lists its roles by name, and under each the member strings of those that
hold it, all in strictly increasing order. So the document depends only on what is held, and
policies are equal exactly if their documents are: neither the order of the calls that built them
matters, nor what their roles have to show.

* `Policy.Listing`: what a document lists, and when this is what bindings hold;
* `Policy.Listing.Of.unique`: bindings that hold the same are listed alike;
* `Policy.canonical_form`: the document of a policy is its canonical form.
-/

namespace AccessPolicy

namespace Bindings

/-- A role that is named by a text is held by the members of its entry. -/
theorem Sound.holds_ofName {bs : Bindings} (h : bs.Sound) {e : Role × Members} (he : e ∈ bs)
    (htextual : ∀ i ∈ e.2, i.Textual) {n : String} (hname : e.1.name = .text n) (i : Identity) :
    bs.Holds (Role.ofName n) i ↔ i ∈ e.2 := by
  have hsame : e.1.same (Role.ofName n) = true := (Role.same_iff_of_text hname).mpr rfl
  have hkey := (Role.same_iff_key (h.role_hashable e he)).mp hsame
  rw [← h.apart.holds_congr_role hkey, h.apart.holds_entry he, Members.has_iff_mem htextual]

/-- Who holds a role is canonical if all members are. -/
theorem Holds.canonical {bs : Bindings} {r : Role} {i : Identity} (h : bs.Holds r i)
    (hbs : ∀ e ∈ bs, ∀ i ∈ e.2, i.Canonical) : i.Canonical := by
  obtain ⟨e, he, -, hi⟩ := h
  have hmem := (Members.has_iff_mem fun j hj => (hbs e he j hj).textual).mp hi
  exact hbs e he i hmem

end Bindings

namespace Policy

/-- A policy of roles named by texts and canonical identities, with a text or nothing as its tag and
an integer or nothing as its version. -/
structure Regular (p : Policy) : Prop extends Textual p where
  /-- It is a policy of the family of requests. -/
  family : p.family = .roles
  /-- All identities are canonical. -/
  canonical : ∀ e ∈ p.bindings, ∀ i ∈ e.2, i.Canonical

/-! ### What a document lists -/

/-- What a document lists: names of roles, and under each some member strings. -/
abbrev Listing := List (String × List String)

namespace Listing

/-- The bindings of the document that lists this. -/
def toValue (es : Listing) : Value :=
  .list (es.map fun e => .ofFields [("role", .text e.1), ("members", .list (e.2.map .text))])

/-- The document that lists this, with a tag and a version unless they are null. -/
def document (es : Listing) (etag version : Value) : Value :=
  .ofFields (("bindings", es.toValue)
    :: (optionalField "etag" etag ++ optionalField "version" version))

/-- Whether this is what bindings hold, in strictly increasing order. -/
structure Of (es : Listing) (bs : Bindings) : Prop where
  /-- The names come in strictly increasing order. -/
  ascending : Text.Ascending (es.map Prod.fst)
  /-- They are those of the roles that have a binding. -/
  roles : ∀ r : Role, bs.HasRole r ↔ ∃ e ∈ es, r.name = .text e.1
  /-- Under each name there are member strings. -/
  members_ne_nil : ∀ e ∈ es, e.2 ≠ []
  /-- These come in strictly increasing order. -/
  members_ascending : ∀ e ∈ es, Text.Ascending e.2
  /-- They are those of the identities that hold the role. -/
  members : ∀ e ∈ es, ∀ m, m ∈ e.2 ↔ ∃ i, bs.Holds (Role.ofName e.1) i ∧ i.memberString = m

theorem toValue_injective : Function.Injective toValue := by
  intro es es' h
  refine List.map_injective_iff.mpr ?_ (Value.list.inj h)
  rintro ⟨n, ms⟩ ⟨n', ms'⟩ heq
  simp only [Value.ofFields, List.map_cons, List.map_nil, Value.map.injEq, List.cons.injEq,
    Prod.mk.injEq, Value.text.injEq, Value.list.injEq, true_and, and_true] at heq
  have hms := List.map_injective_iff.mpr (fun _ _ => Value.text.inj) heq.2
  rw [heq.1, hms]

/-! ### The document of a policy -/

/-- What the document of a policy lists for a binding. -/
def entryOf (e : Role × Members) : String × List String :=
  (e.1.name.plain, memberStrings e.2)

end Listing

/-- What the document of a policy lists, if its roles can be sorted. -/
def listing (p : Policy) : Listing :=
  match sortedByRole p.bindings with
  | .ok bs => bs.map Listing.entryOf
  | .error _ => []

/-- **The document** of a policy whose roles are named by texts, and whose identities have a text or
no value. -/
theorem encode_of_texts {p : Policy} (h : ∀ e ∈ p.bindings, ∃ s, e.1.name = .text s)
    (hmembers : ∀ e ∈ p.bindings, ∀ i ∈ e.2, i.Textual) :
    p.encode = .ok (p.listing.document p.etag p.version) := by
  obtain ⟨bs, hbs⟩ := sortedByRole_of_texts h
  have hvalue : Value.list (bs.map encodeBinding) = Listing.toValue (bs.map Listing.entryOf) := by
    rw [Listing.toValue, List.map_map]
    refine congrArg _ (List.map_congr_left fun e he => ?_)
    obtain ⟨s, hs⟩ := h e ((sortedByRole_perm hbs).mem_iff.mp he)
    simp [encodeBinding, Listing.entryOf, hs]
  refine encode_eq_ok_iff.mpr ⟨bs, hbs, fun e he i hi => (hmembers e he i hi).isWritable, ?_⟩
  rw [listing, hbs]
  simp only [Listing.document, hvalue]

/-- The members of a role are sorted by their member strings. -/
theorem ascending_memberStrings {ms : Members} (hms : ms.Sound) (h : ∀ i ∈ ms, i.Canonical) :
    Text.Ascending (memberStrings ms) := by
  refine Text.ascending_mergeSort (List.pairwise_map.mpr ?_)
  refine hms.differ.imp_of_mem fun {i j} hi hj hdiffer hstring => ?_
  obtain rfl := (Identity.memberString_inj (h i hi) (h j hj)).mp hstring
  simp [(h i hi).textual.same_iff.mpr rfl] at hdiffer

theorem mem_memberStrings {ms : Members} {m : String} :
    m ∈ memberStrings ms ↔ ∃ i ∈ ms, i.memberString = m := by
  rw [memberStrings, List.mem_mergeSort, List.mem_map]

/-- Entries that are sorted by role list what is held. -/
private theorem Listing.of_sortedByRole {bs bs' : Bindings} (h : sortedByRole bs = .ok bs')
    (hsound : bs.Sound) (hroles : ∀ e ∈ bs, ∃ s, e.1.name = .text s)
    (hcanonical : ∀ e ∈ bs, ∀ i ∈ e.2, i.Canonical) :
    Listing.Of (bs'.map Listing.entryOf) bs := by
  have hmem : ∀ e, e ∈ bs' ↔ e ∈ bs := fun e => (sortedByRole_perm h).mem_iff
  have hname : ∀ e ∈ bs, e.1.name = .text e.1.name.plain := fun e he => by
    obtain ⟨s, hs⟩ := hroles e he
    rw [hs, Value.plain_text]
  refine ⟨?_, fun r => ?_, ?_, ?_, ?_⟩
  · have hsorted : (bs'.map Listing.entryOf).map Prod.fst =
        (bs.map fun e => e.1.name.plain).mergeSort fun s t => !Text.precedes t s := by
      rw [sortedByRole_eq h, List.map_map]
      refine List.map_mergeSort fun a ha b hb => ?_
      rw [hname a ha, hname b hb]
      rfl
    rw [hsorted]
    refine Text.ascending_mergeSort (List.pairwise_map.mpr ?_)
    refine hsound.roles_differ.imp_of_mem fun {a b} ha hb hdiffer hplain => ?_
    have hsame : a.1.same b.1 = true := by
      rw [Role.same_iff_of_text (hname a ha), hname b hb, hplain]
    simp [hsame] at hdiffer
  · simp only [Bindings.HasRole, List.mem_map, exists_exists_and_eq_and, hmem]
    refine exists_congr fun e => and_congr_right fun he => ?_
    exact Role.same_iff_of_text (hname e he)
  · simp only [List.forall_mem_map, hmem]
    exact fun e he hnil => hsound.members_ne_nil e he (memberStrings_eq_nil.mp hnil)
  · simp only [List.forall_mem_map, hmem]
    exact fun e he => ascending_memberStrings (hsound.members he) (hcanonical e he)
  · simp only [List.forall_mem_map, hmem]
    intro e he m
    have hholds := hsound.holds_ofName he (fun i hi => (hcanonical e he i hi).textual) (hname e he)
    rw [Listing.entryOf, mem_memberStrings]
    exact exists_congr fun i => and_congr_left fun _ => (hholds i).symm

/-- **What is written.** The document of a policy lists what the policy holds. -/
theorem exists_listing {p : Policy} (hsound : p.bindings.Sound) (hp : p.Regular) :
    ∃ es : Listing, p.toDocument = .ok (es.document p.etag p.version) ∧ es.Of p.bindings := by
  refine ⟨p.listing, by rw [toDocument, if_pos hp.family, encode_of_texts hp.roles hp.members], ?_⟩
  obtain ⟨bs, hbs⟩ := sortedByRole_of_texts hp.roles
  rw [listing, hbs]
  exact Listing.of_sortedByRole hbs hsound hp.roles hp.canonical

/-! ### Bindings and what lists them -/

namespace Listing

variable {es es' : Listing} {bs bs' : Bindings}

/-- A role that is held has an entry with the member string. -/
theorem Of.holds_iff (h : es.Of bs) (hsound : bs.Sound)
    (hcanonical : ∀ e ∈ bs, ∀ i ∈ e.2, i.Canonical) {r : Role} {i : Identity} :
    bs.Holds r i ↔
      i.Canonical ∧ ∃ e ∈ es, r.name = .text e.1 ∧ i.memberString ∈ e.2 := by
  have hrole : ∀ n : String, r.name = .text n → (bs.Holds r i ↔ bs.Holds (Role.ofName n) i) :=
    fun n hn => hsound.apart.holds_congr_role (by rw [Role.key, hn]; rfl) i
  constructor
  · intro hi
    obtain ⟨e, he, hname⟩ := (h.roles r).mp (hsound.hasRole_iff.mpr ⟨i, hi⟩)
    exact ⟨hi.canonical hcanonical, e, he, hname,
      (h.members e he _).mpr ⟨i, (hrole e.1 hname).mp hi, rfl⟩⟩
  · rintro ⟨hi, e, he, hname, hmem⟩
    obtain ⟨j, hj, hstring⟩ := (h.members e he _).mp hmem
    obtain rfl := (Identity.memberString_inj (hj.canonical hcanonical) hi).mp hstring
    exact (hrole e.1 hname).mpr hj

private theorem Of.mem_of_mem (h : es.Of bs) (h' : es'.Of bs') (hsound : bs.Sound)
    (hsound' : bs'.Sound) (hholds : ∀ r i, bs.Holds r i ↔ bs'.Holds r i)
    {e : String × List String} (he : e ∈ es) : e ∈ es' := by
  have hrole : bs'.HasRole (Role.ofName e.1) := by
    rw [hsound'.hasRole_iff]
    simp only [← hholds]
    rw [← hsound.hasRole_iff]
    exact (h.roles _).mpr ⟨e, he, rfl⟩
  obtain ⟨e', he', hname⟩ := (h'.roles _).mp hrole
  have hfst : e.1 = e'.1 := Value.text.inj hname
  have hsnd : e.2 = e'.2 := by
    refine Text.eq_of_ascending id (by simpa using h.members_ascending e he)
      (by simpa using h'.members_ascending e' he') fun m => ?_
    rw [h.members e he, h'.members e' he', hfst]
    simp only [hholds]
  rwa [Prod.ext hfst hsnd]

/-- **Uniqueness.** Bindings that hold the same are listed alike. -/
theorem Of.unique (h : es.Of bs) (h' : es'.Of bs') (hsound : bs.Sound) (hsound' : bs'.Sound)
    (hholds : ∀ r i, bs.Holds r i ↔ bs'.Holds r i) : es = es' :=
  Text.eq_of_ascending Prod.fst h.ascending h'.ascending fun _ =>
    ⟨fun he => h.mem_of_mem h' hsound hsound' hholds he,
      fun he => h'.mem_of_mem h hsound' hsound (fun r i => (hholds r i).symm) he⟩

private theorem exists_document_eq (es : Listing) (etag version : Value) :
    ∃ fields, es.document etag version = .map fields ∧
      Value.field "bindings" fields = es.toValue ∧ Value.field "etag" fields = etag ∧
      Value.field "version" fields = version := by
  refine ⟨_, rfl, by simp [Value.field, Value.field?], ?_, ?_⟩
  all_goals
    cases he : etag.isNull <;> cases hv : version.isNull <;>
      simp [Value.field, Value.field?, optionalField, he, hv]
  · exact (eq_null_of_isNull he).symm
  · exact (eq_null_of_isNull he).symm
  · exact (eq_null_of_isNull hv).symm
  · exact (eq_null_of_isNull hv).symm

/-- Documents are the same exactly if they list the same, with the same tag and version. -/
theorem document_inj {etag etag' version version' : Value} :
    es.document etag version = es'.document etag' version' ↔
      es = es' ∧ etag = etag' ∧ version = version' := by
  constructor
  · intro h
    obtain ⟨fields, hfields, hes, hetag, hversion⟩ := es.exists_document_eq etag version
    obtain ⟨fields', hfields', hes', hetag', hversion'⟩ := es'.exists_document_eq etag' version'
    rw [hfields, hfields'] at h
    obtain rfl := Value.map.inj h
    exact ⟨toValue_injective (hes.symm.trans hes'), hetag.symm.trans hetag',
      hversion.symm.trans hversion'⟩
  · rintro ⟨rfl, rfl, rfl⟩
    rfl

end Listing

/-! ### The canonical form -/

/-- Equality of regular policies, part by part. -/
theorem Regular.same_iff {p q : Policy} (hp : p.Regular) (hq : q.Regular) :
    p.same q = true ↔
      p.bindings.same q.bindings = true ∧ p.etag = q.etag ∧ p.version = q.version := by
  simp only [same, hp.family, hq.family, BEq.rfl, Bool.true_and, Bool.and_eq_true,
    sameField_iff_of_text hp.etag, sameField_iff_of_int hp.version hq.version, and_assoc]

/-- **The canonical form.** The document of a policy that came about lists just its roles, and under
each just the member strings of those that hold it, at least one; all in strictly increasing order
of code points. Policies are equal exactly if their documents are, down to the order of what they
list. (Canonical identities can be elements of a set, so a removal of them never stops half-way and
leaves no role without members.) -/
theorem canonical_form {p q : Policy} (hp : p.Reachable) (hq : q.Reachable) (hpr : p.Regular)
    (hqr : q.Regular) :
    (∃ es : Listing, p.toDocument = .ok (es.document p.etag p.version) ∧ es.Of p.bindings) ∧
      (p.same q = true ↔ p.toDocument = q.toDocument) := by
  obtain ⟨es, hes, hof⟩ := exists_listing hp.sound hpr
  obtain ⟨es', hes', hof'⟩ := exists_listing hq.sound hqr
  refine ⟨⟨es, hes, hof⟩, ?_⟩
  rw [hpr.same_iff hqr, hes, hes', Except.ok.injEq, Listing.document_inj,
    Bindings.same_iff_holds hp.sound hq.sound]
  refine and_congr_left fun _ => ⟨fun hholds => ?_, ?_⟩
  · exact hof.unique hof' hp.sound hq.sound hholds
  · rintro rfl r i
    rw [hof.holds_iff hp.sound hpr.canonical, hof'.holds_iff hq.sound hqr.canonical]

/-- Two policies that were built in different orders, one of them with a title on a role: they are
equal, and so they have one document. -/
theorem canonical_form_two_orders :
    let ann : Identity := ⟨.user, .text "ann"⟩
    let all : Identity := ⟨.allUsers, .null⟩
    let titled : Role := { name := .text "b", title := .text "B" }
    let p := (Builder.run {} [.addIdentity (some (Role.ofName "b")) [some ann],
      .addIdentity (some (Role.ofName "a")) [some ann, some all]]).build
    let q := (Builder.run {} [.addIdentity (some (Role.ofName "a")) [some all],
      .addIdentity (some titled) [some ann],
      .addIdentity (some (Role.ofName "a")) [some ann]]).build
    p.same q = true ∧ p.toDocument = q.toDocument ∧
      ∃ es : Listing, p.toDocument = .ok (es.document .null .null) ∧ es.Of p.bindings := by
  intro ann all titled p q
  have hp : p = ⟨.roles, [(Role.ofName "b", [ann]), (Role.ofName "a", [ann, all])], .null,
      .null⟩ := by
    with_unfolding_all rfl
  have hq : q = ⟨.roles, [(Role.ofName "a", [all, ann]), (titled, [ann])], .null, .null⟩ := by
    with_unfolding_all rfl
  have hsame : p.same q = true := by
    rw [hp, hq]
    with_unfolding_all rfl
  have hcanonical : ann.Canonical ∧ all.Canonical := by
    simp [ann, all, Identity.Canonical, IdentityKind.isWildcard]
  have hpr : p.Regular := by
    rw [hp]
    refine ⟨⟨?_, ?_, .inl rfl, .inl rfl⟩, rfl, ?_⟩ <;>
      simp [Role.ofName, hcanonical, hcanonical.1.textual, hcanonical.2.textual]
  have hqr : q.Regular := by
    rw [hq]
    refine ⟨⟨?_, ?_, .inl rfl, .inl rfl⟩, rfl, ?_⟩ <;>
      simp [Role.ofName, titled, hcanonical, hcanonical.1.textual, hcanonical.2.textual]
  have hmake : Builder.make .roles none .null .null = .ok {} := rfl
  have hreach : p.Reachable := .built hmake (by simp [Builder.Call.Removes])
  have hreach' : q.Reachable := .built hmake (by simp [Builder.Call.Removes])
  obtain ⟨hlisting, hiff⟩ := canonical_form hreach hreach' hpr hqr
  refine ⟨hsame, hiff.mp hsame, ?_⟩
  rw [hp] at hlisting ⊢
  exact hlisting

end Policy

end AccessPolicy
