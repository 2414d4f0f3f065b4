import AccessPolicy.Proofs.Policy.Writing

/-!
# The round trip of policies through documents

Which policies come back equal when their document is written and read: those with canonical
bindings, in which no role is without members, and no others. A bare role name comes back with
`roles/` before it; an address that is empty cannot be read, one that is missing comes back as a
text, a wildcard loses its value, and a role without members is left out. All policies that were
read from a document are of the canonical kind, so that reading, writing and reading again changes
nothing.

* `Policy.roundTrips_of_canonical`: canonical bindings come back;
* `Policy.sound_of_roundTrips`, `Policy.canonical_of_roundTrips`: what comes back has members for
  each role, and canonical bindings;
* `Policy.round_trip_range`: both, for all policies that builders make and documents hold.
-/

namespace AccessPolicy

namespace Policy

/-- A policy of roles named by texts and identities with a text or no value, with a text or nothing
as its tag and an integer or nothing as its version. -/
structure Textual (p : Policy) : Prop where
  /-- Every role is named by a text. -/
  roles : ∀ e ∈ p.bindings, ∃ s, e.1.name = .text s
  /-- Every identity has a text or no value. -/
  members : ∀ e ∈ p.bindings, ∀ i ∈ e.2, i.Textual
  /-- The tag is a text or null. -/
  etag : p.etag = .null ∨ ∃ s, p.etag = .text s
  /-- The version is an integer or null. -/
  version : p.version = .null ∨ ∃ n, p.version = .int n

/-- A policy that has a document, and one that is read as a policy equal to it. -/
def RoundTrips (p : Policy) : Prop :=
  ∃ document q, p.toDocument = .ok document ∧ decode document = .ok q ∧ q.same p = true

theorem Textual.etag_same {p : Policy} (h : p.Textual) : sameField p.etag p.etag = true :=
  (sameField_iff_of_text h.etag).mpr rfl

theorem Textual.version_same {p : Policy} (h : p.Textual) :
    sameField p.version p.version = true :=
  (sameField_iff_of_int h.version h.version).mpr rfl

theorem textual_of_canonical {p : Policy} (h : p.bindings.Canonical)
    (hetag : p.etag = .null ∨ ∃ s, p.etag = .text s)
    (hversion : p.version = .null ∨ ∃ n, p.version = .int n) : p.Textual where
  roles e he := (h e he).1.imp fun _ hs => hs.1
  members e he i hi := ((h e he).2 i hi).textual
  etag := hetag
  version := hversion

/-! ### Canonical bindings come back -/

theorem roundTrips_of_canonical {p : Policy} (htextual : p.Textual) (hfamily : p.family = .roles)
    (hsound : p.bindings.Sound) (hcanonical : p.bindings.Canonical) : p.RoundTrips := by
  obtain ⟨document, hencode⟩ := exists_encode_of_texts htextual.roles htextual.members
  obtain ⟨fields, rfl, hrenders⟩ := renders_of_encode hencode
  obtain ⟨bs, hdecode, hsame⟩ :=
    hrenders.decode_of_canonical hsound hcanonical htextual.version
  refine ⟨_, _, by rw [toDocument, if_pos hfamily, hencode], hdecode, ?_⟩
  simp [same, hfamily, hsame, htextual.etag_same, htextual.version_same]

/-! ### What comes back is canonical -/

/-- Roles and members that are held the same as in canonical bindings are canonical themselves. -/
private theorem canonical_of_holds {a b : Bindings} (ha : a.Sound) (hb : b.Canonical)
    (hroles : ∀ e ∈ a, ∃ s, e.1.name = .text s) (hmembers : ∀ e ∈ a, ∀ i ∈ e.2, i.Textual)
    (h : ∀ r i, a.Holds r i → b.Holds r i) : a.Canonical := by
  have hentry : ∀ e ∈ a, ∀ i ∈ e.2, e.1.Full ∧ i.Canonical := by
    intro e he i hi
    have hself := (Role.same_iff_key (ha.role_hashable e he)).mpr rfl
    have hheld := Members.has_of_mem (ha.member_hashable e he) hi
    obtain ⟨x, hx, hrole, hhas⟩ := h e.1 i ⟨e, he, hself, hheld⟩
    constructor
    · obtain ⟨s, hs⟩ := hroles e he
      rw [Role.same, hs, Value.same_text_right, ← hs] at hrole
      rw [Role.Full, ← hrole]
      exact (hb x hx).1
    · obtain ⟨m, hm, hmi⟩ := Members.has_iff.mp hhas
      rw [← (hmembers e he i hi).same_iff.mp hmi]
      exact (hb x hx).2 m hm
  intro e he
  -- what holds of a role is known through its members, and it has one
  obtain ⟨i, hi⟩ := List.exists_mem_of_ne_nil _ (ha.members_ne_nil e he)
  exact ⟨(hentry e he i hi).1, fun j hj => (hentry e he j hj).2⟩

/-- What comes back from a document of texts is read from JSON. -/
private theorem RoundTrips.exists_decode {p : Policy} (h : p.RoundTrips) (htextual : p.Textual) :
    ∃ fields q, Value.fieldsJson fields = true ∧ decode (.map fields) = .ok q ∧
      q.bindings.same p.bindings = true := by
  obtain ⟨document, q, hdocument, hdecode, hsame⟩ := h
  have hencode : p.encode = .ok document := by
    unfold toDocument at hdocument
    split at hdocument
    · exact hdocument
    · simp at hdocument
  have hjson : document.isJson = true := by
    refine isJson_of_encode hencode htextual.roles ?_ ?_
    · rcases htextual.etag with he | ⟨s, he⟩ <;> rw [he] <;> rfl
    · rcases htextual.version with hv | ⟨n, hv⟩ <;> rw [hv] <;> rfl
  obtain ⟨fields, rfl, -⟩ := renders_of_encode hencode
  simp only [same, Bool.and_eq_true] at hsame
  exact ⟨fields, q, by simpa [Value.isJson] using hjson, hdecode, hsame.1.1.2⟩

/-- What comes back has members for each role. -/
theorem sound_of_roundTrips {p : Policy} (htextual : p.Textual) (hapart : p.bindings.Apart)
    (h : p.RoundTrips) : p.bindings.Sound := by
  obtain ⟨fields, q, -, hdecode, hbindings⟩ := h.exists_decode htextual
  exact hapart.sound_of_same (decode_sound hdecode) hbindings

/-- What comes back has canonical bindings. -/
theorem canonical_of_roundTrips {p : Policy} (htextual : p.Textual) (hsound : p.bindings.Sound)
    (h : p.RoundTrips) : p.bindings.Canonical := by
  obtain ⟨fields, q, hjson, hdecode, hbindings⟩ := h.exists_decode htextual
  -- all that is read from a document is canonical, so what is held the same is
  rw [Bindings.same_iff_holds (decode_sound hdecode) hsound] at hbindings
  exact canonical_of_holds hsound (decode_canonical hjson hdecode) htextual.roles htextual.members
    fun r i => (hbindings r i).mpr

/-! ### The range of the round trip -/

/-- **The range of the round trip.** Of the policies over texts that builders make, those with
canonical bindings, in which no role is without members, come back equal from their document, and no
others. If all identities that were to be removed can be elements of a set, as those with a text or
no value can, then no role is without members. All policies that are read from documents come
back. -/
theorem round_trip_range :
    (∀ (calls : List Builder.Call) (p : Policy), p = (Builder.run {} calls).build → p.Textual →
      (p.RoundTrips ↔ p.bindings.Canonical ∧ ∀ e ∈ p.bindings, e.2 ≠ []) ∧
      ((∀ c ∈ calls, ∀ i, c.Removes i → i.hashable = true) →
        (p.RoundTrips ↔ p.bindings.Canonical))) ∧
    (∀ fields : List (Value × Value), Value.fieldsJson fields = true →
      (Value.field "etag" fields = .null ∨ ∃ s, Value.field "etag" fields = .text s) →
      ∀ p : Policy, decode (.map fields) = .ok p → p.bindings.Canonical ∧ p.RoundTrips) := by
  constructor
  · rintro calls p rfl htextual
    have hfamily := Builder.run_family {} calls
    have hapart : (Builder.run {} calls).build.bindings.Apart :=
      Builder.run_apart Bindings.Sound.nil.apart calls
    constructor
    · constructor
      · intro h
        have hsound := sound_of_roundTrips htextual hapart h
        exact ⟨canonical_of_roundTrips htextual hsound h, hsound.members_ne_nil⟩
      · rintro ⟨hcanonical, hne⟩
        exact roundTrips_of_canonical htextual hfamily (hapart.sound hne) hcanonical
    · intro hcalls
      have hsound : (Builder.run {} calls).build.bindings.Sound :=
        Builder.run_sound Bindings.Sound.nil hcalls
      exact ⟨canonical_of_roundTrips htextual hsound,
        roundTrips_of_canonical htextual hfamily hsound⟩
  · intro fields hjson hetag p hdecode
    have hcanonical := decode_canonical hjson hdecode
    obtain ⟨-, hversion, he, hfamily⟩ := decode_map_eq_ok_iff.mp hdecode
    have htextual : p.Textual :=
      textual_of_canonical hcanonical (he ▸ hetag) (decodeVersion_cases hversion)
    exact ⟨hcanonical, roundTrips_of_canonical htextual hfamily (decode_sound hdecode) hcanonical⟩

/-- A grant of the role of reading to one user comes back, and so does what is read from a document
that names the bare role and the user. What a removal leaves that takes the user out and stops then
does not come back. -/
theorem round_trip_range_viewer :
    let ann : Identity := ⟨.user, .text "ann@example.com"⟩
    let grant : Builder.Call := .addIdentity (some Role.viewer) [some ann]
    (Builder.run {} [grant, .setEtag (.text "tag")]).build.RoundTrips ∧
    ¬ (Builder.run {} [grant, .removeIdentity (some Role.viewer)
      [some ann, some ⟨.user, .list [.text "x"]⟩]]).build.RoundTrips ∧
    ∃ p, decode (.ofFields [("bindings", .list [.ofFields [("role", .text "viewer"),
      ("members", .list [.text "user:ann@example.com"])]]), ("version", .int 1)]) = .ok p ∧
      p.bindings.Canonical ∧ p.RoundTrips := by
  intro ann grant
  have hviewer : Bindings.Canonical [({ name := .text "roles/viewer" }, [ann])] := by
    simp [Bindings.Canonical, Role.Full, Identity.Canonical, IdentityKind.isWildcard, ann]
  refine ⟨?_, fun h => ?_, ?_⟩
  · refine ((round_trip_range.1 _ _ rfl ?_).2 ?_).mpr hviewer
    · exact textual_of_canonical hviewer (.inr ⟨"tag", rfl⟩) (.inl rfl)
    · simp [Builder.Call.Removes, grant]
  · have hleft : (Builder.run {} [grant, .removeIdentity (some Role.viewer)
        [some ann, some ⟨.user, .list [.text "x"]⟩]]).build.bindings = [(Role.viewer, [])] := by
      with_unfolding_all rfl
    have htextual : (Builder.run {} [grant, .removeIdentity (some Role.viewer)
        [some ann, some ⟨.user, .list [.text "x"]⟩]]).build.Textual := by
      refine ⟨?_, ?_, .inl (by with_unfolding_all rfl), .inl (by with_unfolding_all rfl)⟩ <;>
        rw [hleft]
      · intro e he
        exact ⟨"roles/viewer", by rw [List.mem_singleton.mp he]; rfl⟩
      · simp
    have hne := ((round_trip_range.1 _ _ rfl htextual).1.mp h).2
    simp [hleft] at hne
  · have hread : decode (.ofFields [("bindings", .list [.ofFields [("role", .text "viewer"),
        ("members", .list [.text "user:ann@example.com"])]]), ("version", .int 1)]) =
        .ok ⟨.roles, [({ name := .text "roles/viewer" }, [ann])], .null, .int 1⟩ := rfl
    exact ⟨_, hread, round_trip_range.2 _ rfl (.inl rfl) _ hread⟩

end Policy

end AccessPolicy
