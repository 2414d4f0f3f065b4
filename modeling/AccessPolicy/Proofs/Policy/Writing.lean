import AccessPolicy.Proofs.Policy.Reading
import Mathlib.Data.List.Perm.Basic

/-!
# Writing policy documents, and reading them back

The document of a policy holds its bindings in some order, its tag and its version
(`Policy.Renders`). Not every such document can be read again: what is written is checked only when
it is read. `Policy.Legible` is what it takes, and for canonical bindings the policy that is read
holds the same.

* `Policy.encode_eq_ok_iff`: which policies have a document;
* `Policy.renders_of_encode`: what a document of a policy consists of;
* `Policy.isJson_of_encode`: it is a document that a service can send back;
* `Policy.Renders.exists_decode_iff`: it can be read exactly if the policy is legible;
* `Policy.Renders.decode_of_canonical`: with canonical bindings it reads back as it was.
-/

namespace AccessPolicy

namespace Policy

/-! ### What is written -/

/-- Fields that render a policy: its bindings in some order, its tag unless it is null, and its
version. -/
structure Renders (p : Policy) (fields : List (Value × Value)) : Prop where
  /-- The bindings are a permutation of those of the policy. -/
  bindings : ∃ bs : Bindings, bs.Perm p.bindings ∧
    Value.field "bindings" fields = .list (bs.map encodeBinding)
  /-- A null tag is left out. -/
  etag : Value.field? "etag" fields = if p.etag.isNull then none else some p.etag
  /-- The version is that of the policy. -/
  version : Value.field "version" fields = p.version

/-- What is sorted is sorted by the names of the roles. -/
theorem sortedByRole_eq {bs bs' : Bindings} (h : sortedByRole bs = .ok bs') :
    bs' = bs.mergeSort fun a b => !(nameLess b.1.name a.1.name).getD false := by
  unfold sortedByRole at h
  split at h
  · exact (Except.ok.inj h).symm
  · simp at h

theorem sortedByRole_perm {bs bs' : Bindings} (h : sortedByRole bs = .ok bs') : bs'.Perm bs := by
  rw [sortedByRole_eq h]
  exact List.mergeSort_perm _ _

/-- Roles named by texts can be sorted. -/
theorem sortedByRole_of_texts {bs : Bindings} (h : ∀ e ∈ bs, ∃ s, e.1.name = .text s) :
    ∃ bs', sortedByRole bs = .ok bs' := by
  have hcomparable : comparable (bs.map (·.1.name)) = true := by
    simp only [comparable, List.all_eq_true, List.mem_map]
    rintro _ ⟨a, ha, rfl⟩ _ ⟨b, hb, rfl⟩
    obtain ⟨s, hs⟩ := h a ha
    obtain ⟨t, ht⟩ := h b hb
    simp [hs, ht, nameLess]
  exact ⟨_, if_pos (.inr hcomparable)⟩

theorem eq_null_of_isNull {v : Value} (h : v.isNull = true) : v = .null := by
  cases v <;> simp_all [Value.isNull]

theorem membersWritable_iff {bs : Bindings} :
    membersWritable bs = true ↔ ∀ e ∈ bs, ∀ i ∈ e.2, i.isWritable = true := by
  simp [membersWritable]

/-- A policy has a document if its roles can be sorted and its identities be written. -/
theorem encode_eq_ok_iff {p : Policy} {document : Value} :
    p.encode = .ok document ↔ ∃ bs, sortedByRole p.bindings = .ok bs ∧
      (∀ e ∈ p.bindings, ∀ i ∈ e.2, i.isWritable = true) ∧
      document = .ofFields (("bindings", .list (bs.map encodeBinding))
        :: (optionalField "etag" p.etag ++ optionalField "version" p.version)) := by
  unfold encode
  cases hbs : sortedByRole p.bindings with
  | error e => simp
  | ok bs =>
    have hwritable : membersWritable bs = true ↔
        ∀ e ∈ p.bindings, ∀ i ∈ e.2, i.isWritable = true := by
      simp only [membersWritable_iff, (sortedByRole_perm hbs).mem_iff]
    dsimp only
    rw [← hwritable]
    split <;> simp [*, eq_comm]

/-- **What is written.** The document of a policy is a map that renders it. -/
theorem renders_of_encode {p : Policy} {document : Value} (h : p.encode = .ok document) :
    ∃ fields, document = .map fields ∧ p.Renders fields := by
  obtain ⟨bs, hbs, -, rfl⟩ := encode_eq_ok_iff.mp h
  refine ⟨_, rfl, ⟨bs, sortedByRole_perm hbs, by simp [Value.field, Value.field?]⟩, ?_, ?_⟩
  · cases he : p.etag.isNull <;> cases hv : p.version.isNull <;>
      simp [Value.field?, optionalField, he, hv]
  · cases he : p.etag.isNull <;> cases hv : p.version.isNull <;>
      simp [Value.field, Value.field?, optionalField, he, hv]
    · exact (eq_null_of_isNull hv).symm
    · exact (eq_null_of_isNull hv).symm

theorem exists_encode_of_texts {p : Policy} (hroles : ∀ e ∈ p.bindings, ∃ s, e.1.name = .text s)
    (hmembers : ∀ e ∈ p.bindings, ∀ i ∈ e.2, i.Textual) :
    ∃ document, p.encode = .ok document := by
  obtain ⟨bs, hbs⟩ := sortedByRole_of_texts hroles
  exact ⟨_, encode_eq_ok_iff.mpr ⟨bs, hbs, fun e he i hi => (hmembers e he i hi).isWritable, rfl⟩⟩

/-- The document of a policy whose roles are named by texts is one that a service can send. -/
theorem isJson_of_encode {p : Policy} {document : Value} (h : p.encode = .ok document)
    (hroles : ∀ e ∈ p.bindings, ∃ s, e.1.name = .text s) (hetag : p.etag.isJson = true)
    (hversion : p.version.isJson = true) : document.isJson = true := by
  obtain ⟨bs, hbs, -, rfl⟩ := encode_eq_ok_iff.mp h
  have hentries : Value.allJson (bs.map encodeBinding) = true := by
    simp only [Value.allJson_iff, List.mem_map]
    rintro _ ⟨e, he, rfl⟩
    obtain ⟨s, hs⟩ := hroles e ((sortedByRole_perm hbs).mem_iff.mp he)
    have hmembers : Value.allJson ((memberStrings e.2).map .text) = true := by
      simp [Value.allJson_iff, Value.isJson]
    simp [encodeBinding, Value.ofFields, Value.isJson, Value.fieldsJson, Value.isText, hs,
      hmembers]
  cases he : p.etag.isNull <;> cases hv : p.version.isNull <;>
    simp [Value.ofFields, Value.isJson, Value.fieldsJson, Value.isText, optionalField, hentries,
      he, hv, hetag, hversion]

theorem Renders.field_etag {p : Policy} {fields : List (Value × Value)} (h : p.Renders fields) :
    Value.field "etag" fields = p.etag := by
  rw [Value.field, h.etag]
  split
  · next he => exact (eq_null_of_isNull he).symm
  · rfl

/-! ### Members -/

/-- What a text is read as, if it is a member string. -/
private def parsed (s : String) : Identity := (Identity.parse s).toOption.getD default

private theorem decodeMembers_texts {l : List String}
    (h : ∀ s ∈ l, ∃ i, Identity.parse s = .ok i) :
    decodeMembers (l.map .text) = .ok (l.map parsed) := by
  induction l with
  | nil => rfl
  | cons s rest ih =>
    obtain ⟨i, hi⟩ := h s (by simp)
    have hs : parsed s = i := by simp [parsed, hi, Except.toOption]
    simp [decodeMembers, Identity.ofValue, hi, hs, ih fun t ht => h t (by simp [ht])]

private theorem exists_ofValue_of_decodeMembers {items : List Value} {ids : List Identity}
    (h : decodeMembers items = .ok ids) : ∀ v ∈ items, ∃ i, Identity.ofValue v = .ok i := by
  induction items generalizing ids with
  | nil => simp
  | cons v rest ih =>
    rw [decodeMembers] at h
    split at h
    · simp at h
    · next i hi =>
      split at h
      · simp at h
      · next his => simpa using ⟨⟨i, hi⟩, ih his⟩

private theorem memberStrings_perm (ms : Members) :
    (memberStrings ms).Perm (ms.map Identity.memberString) :=
  List.mergeSort_perm _ _

/-- Legible members are read back, in some order, as what their member strings say. -/
theorem decodeMembers_memberStrings {ms : Members} (h : ∀ i ∈ ms, i.Legible) :
    ∃ ids, ids.Perm (ms.map Identity.reread) ∧
      decodeMembers ((memberStrings ms).map .text) = .ok ids := by
  have hperm := memberStrings_perm ms
  refine ⟨(memberStrings ms).map parsed, ?_, decodeMembers_texts fun s hs => ?_⟩
  · have hparsed : ms.map Identity.reread = (ms.map Identity.memberString).map parsed := by
      rw [List.map_map]
      refine List.map_congr_left fun i hi => ?_
      simp [parsed, Identity.parse_memberString_of_legible (h i hi), Except.toOption]
    rw [hparsed]
    exact hperm.map parsed
  · obtain ⟨i, hi, rfl⟩ := List.mem_map.mp (hperm.mem_iff.mp hs)
    exact ⟨_, Identity.parse_memberString_of_legible (h i hi)⟩

/-- Members whose member strings can be read are legible. -/
theorem legible_of_decodeMembers {ms : Members} {ids : List Identity}
    (h : decodeMembers ((memberStrings ms).map .text) = .ok ids) : ∀ i ∈ ms, i.Legible := by
  intro i hi
  have hmem : Value.text i.memberString ∈ (memberStrings ms).map .text :=
    List.mem_map_of_mem ((memberStrings_perm ms).mem_iff.mpr (List.mem_map_of_mem hi))
  exact Identity.exists_parse_memberString_iff.mp (exists_ofValue_of_decodeMembers h _ hmem)

theorem memberStrings_eq_nil {ms : Members} : memberStrings ms = [] ↔ ms = [] := by
  rw [← List.length_eq_zero_iff, (memberStrings_perm ms).length_eq]
  simp

/-! ### Legible policies -/

/-- What it takes to read a binding back: its role has a name, which names a role that may be a key
if there are members, and all members are legible. -/
structure LegibleEntry (e : Role × Members) : Prop where
  /-- The name of the role is not empty, zero or null. -/
  named : e.1.name.truthy = true
  /-- If there are members, the name of the role can be read. -/
  role : e.2 ≠ [] → ∃ r, Role.ofValue e.1.name = .ok r ∧ r.hashable = true
  /-- The members can be read. -/
  members : ∀ i ∈ e.2, i.Legible

/-- A policy whose document can be read: all its bindings and its version can. -/
structure Legible (p : Policy) : Prop where
  /-- The bindings can be read. -/
  entries : ∀ e ∈ p.bindings, LegibleEntry e
  /-- The version can be read. -/
  version : ∃ v, decodeVersion p.version = .ok v

/-- The reading of a written binding. -/
private theorem decodeBinding_encodeBinding (acc : Bindings) (e : Role × Members) :
    decodeBinding acc (encodeBinding e) =
      if e.1.name.truthy = false then .error (.rejected .unnamedRole)
      else match decodeMembers ((memberStrings e.2).map .text) with
        | .error f => .error f
        | .ok [] => .ok acc
        | .ok (i :: is) => match Role.ofValue e.1.name with
          | .error f => .error f
          | .ok r => if r.hashable then .ok (acc.grant r (i :: is)) else .error .wrongKind := by
  cases hrole : Role.ofValue e.1.name <;>
    rcases hids : decodeMembers ((memberStrings e.2).map .text) with _ | _ | ⟨i, is⟩ <;>
    simp [decodeBinding, encodeBinding, Value.ofFields, Value.field, Value.field?, hrole, hids]

private theorem decodeBinding_of_nil {e : Role × Members} (h : LegibleEntry e) (he : e.2 = [])
    (acc : Bindings) : decodeBinding acc (encodeBinding e) = .ok acc := by
  rw [decodeBinding_encodeBinding, memberStrings_eq_nil.mpr he]
  simp [h.named, decodeMembers]

private theorem decodeBinding_of_ne_nil {e : Role × Members} (h : LegibleEntry e) (he : e.2 ≠ []) :
    ∃ r ids, Role.ofValue e.1.name = .ok r ∧ r.hashable = true ∧
      ids.Perm (e.2.map Identity.reread) ∧
      ∀ acc, decodeBinding acc (encodeBinding e) = .ok (acc.grant r ids) := by
  obtain ⟨r, hrole, hr⟩ := h.role he
  obtain ⟨ids, hperm, hids⟩ := decodeMembers_memberStrings h.members
  refine ⟨r, ids, hrole, hr, hperm, fun acc => ?_⟩
  obtain ⟨i, is, rfl⟩ : ∃ i is, ids = i :: is := by
    refine List.exists_cons_of_ne_nil fun hnil => he ?_
    exact List.map_eq_nil_iff.mp (hnil ▸ hperm).nil_eq.symm
  rw [decodeBinding_encodeBinding, hids]
  simp [h.named, hrole, hr]

/-- A written binding that can be read is legible. -/
theorem legible_of_decodeBinding {acc bs : Bindings} {e : Role × Members}
    (h : decodeBinding acc (encodeBinding e) = .ok bs) : LegibleEntry e := by
  rw [decodeBinding_encodeBinding] at h
  split at h
  · simp at h
  · next hnamed =>
    split at h
    · simp at h
    · next hids =>
      -- nothing was read, so nothing was written
      have hnil : e.2 = [] := by
        by_contra he
        obtain ⟨ids, hperm, hids'⟩ := decodeMembers_memberStrings (legible_of_decodeMembers hids)
        obtain rfl := Except.ok.inj (hids.symm.trans hids')
        exact he (List.map_eq_nil_iff.mp hperm.nil_eq.symm)
      exact ⟨by simpa using hnamed, fun he => absurd hnil he, legible_of_decodeMembers hids⟩
    · next hids =>
      refine ⟨by simpa using hnamed, fun _ => ?_, legible_of_decodeMembers hids⟩
      split at h
      · simp at h
      · next r hrole =>
        split at h
        · next hr => exact ⟨r, hrole, hr⟩
        · simp at h

theorem LegibleEntry.exists_decodeBinding {e : Role × Members} (h : LegibleEntry e)
    (acc : Bindings) : ∃ bs, decodeBinding acc (encodeBinding e) = .ok bs := by
  by_cases he : e.2 = []
  · exact ⟨acc, decodeBinding_of_nil h he acc⟩
  · obtain ⟨r, ids, -, -, -, hdec⟩ := decodeBinding_of_ne_nil h he
    exact ⟨_, hdec acc⟩

/-- Written bindings can be read exactly if all of them are legible. -/
theorem exists_decodeBindings_iff {bs acc : Bindings} :
    (∃ bs', decodeBindings (bs.map encodeBinding) acc = .ok bs') ↔ ∀ e ∈ bs, LegibleEntry e := by
  induction bs generalizing acc with
  | nil => simp [decodeBindings]
  | cons e rest ih =>
    rw [List.map_cons, decodeBindings, List.forall_mem_cons]
    cases hdec : decodeBinding acc (encodeBinding e) with
    | error f =>
      refine iff_of_false (by simp) fun hall => ?_
      obtain ⟨bs', hbs⟩ := hall.1.exists_decodeBinding acc
      simp [hdec] at hbs
    | ok bs' => exact ih.trans (and_iff_right (legible_of_decodeBinding hdec)).symm

/-- **What can be read back.** A document that renders a policy can be read exactly if the policy is
legible. -/
theorem Renders.exists_decode_iff {p : Policy} {fields : List (Value × Value)}
    (h : p.Renders fields) : (∃ q, decode (.map fields) = .ok q) ↔ p.Legible := by
  obtain ⟨bs, hperm, hfield⟩ := h.bindings
  constructor
  · rintro ⟨q, hq⟩
    obtain ⟨⟨items, hitems, hbs⟩, hversion, -⟩ := decode_map_eq_ok_iff.mp hq
    rw [hfield, listOf_list] at hitems
    obtain rfl := Except.ok.inj hitems
    refine ⟨fun e he => ?_, ⟨_, h.version ▸ hversion⟩⟩
    exact exists_decodeBindings_iff.mp ⟨_, hbs⟩ e (hperm.mem_iff.mpr he)
  · rintro ⟨hentries, v, hv⟩
    obtain ⟨bs', hbs⟩ := (@exists_decodeBindings_iff bs []).mpr fun e he =>
      hentries e (hperm.mem_iff.mp he)
    exact ⟨⟨.roles, bs', Value.field "etag" fields, v⟩, decode_map_eq_ok_iff.mpr
      ⟨⟨_, by rw [hfield, listOf_list], hbs⟩, h.version.symm ▸ hv, rfl, rfl⟩⟩

/-- The same with a new tag, as the service stores the document. -/
theorem Renders.exists_decode_putField_iff {p : Policy} {fields : List (Value × Value)}
    (h : p.Renders fields) (etag : Value) :
    (∃ q, decode (.map (Value.putField "etag" etag fields)) = .ok q) ↔ p.Legible := by
  rw [← h.exists_decode_iff]
  constructor
  · rintro ⟨q, hq⟩
    exact ⟨_, (decode_putField_etag.mp hq).2⟩
  · rintro ⟨q, hq⟩
    refine ⟨{ q with etag := etag }, decode_putField_etag.mpr ⟨rfl, ?_⟩⟩
    rw [← (decode_map_eq_ok_iff.mp hq).2.2.1]
    exact hq

/-! ### Canonical bindings read back -/

/-- Canonical bindings with members are legible, and read back as they were. -/
private theorem decodeBinding_of_canonical {e : Role × Members} (hr : e.1.Full)
    (hids : ∀ i ∈ e.2, i.Canonical) (hne : e.2 ≠ []) :
    ∃ r ids, r.name = e.1.name ∧ ids.Perm e.2 ∧
      ∀ acc, decodeBinding acc (encodeBinding e) = .ok (acc.grant r ids) := by
  obtain ⟨s, hs, hslash⟩ := hr
  have hrole : Role.ofValue e.1.name = .ok { name := .text s } := by
    rw [hs, Role.ofValue, Role.fullName_of_mem hslash]
  have hlegible : LegibleEntry e := by
    refine ⟨?_, fun _ => ⟨_, hrole, rfl⟩, fun i hi => (hids i hi).legible⟩
    have hnonempty : s ≠ "" := by
      rintro rfl
      simp at hslash
    simpa [hs, Value.truthy] using hnonempty
  obtain ⟨r, ids, hrole', -, hperm, hdec⟩ := decodeBinding_of_ne_nil hlegible hne
  obtain rfl := Except.ok.inj (hrole'.symm.trans hrole)
  -- canonical identities read back as they are, so all that is lost is their order
  have hreread : e.2.map Identity.reread = e.2 := by
    conv_rhs => rw [← List.map_id e.2]
    exact List.map_congr_left fun i hi => (hids i hi).reread_eq
  exact ⟨_, ids, hs.symm, hreread ▸ hperm, hdec⟩

private theorem decodeBindings_of_canonical {bs acc : Bindings} (hbs : bs.Canonical)
    (hne : ∀ e ∈ bs, e.2 ≠ []) (hacc : acc.Sound) :
    ∃ bs', decodeBindings (bs.map encodeBinding) acc = .ok bs' ∧
      ∀ r i, bs'.Holds r i ↔ acc.Holds r i ∨ bs.Holds r i := by
  induction bs generalizing acc with
  | nil => exact ⟨acc, rfl, by simp [Bindings.Holds]⟩
  | cons e rest ih =>
    obtain ⟨hr, hids⟩ := hbs e (by simp)
    obtain ⟨r', ids, hname, hperm, hdec⟩ := decodeBinding_of_canonical hr hids (hne e (by simp))
    have hr' : r'.hashable = true := by rw [Role.hashable, hname]; exact hr.hashable
    have hids' : ∀ i ∈ ids, i.hashable = true := fun i hi =>
      (hids i (hperm.mem_iff.mp hi)).textual.hashable
    have hids_ne : ids ≠ [] := fun hnil => hne e (by simp) (hnil ▸ hperm).nil_eq.symm
    obtain ⟨bs', hbs', hholds⟩ := ih (fun x hx => hbs x (by simp [hx]))
      (fun x hx => hne x (by simp [hx])) (hacc.grant hr' hids' hids_ne)
    refine ⟨bs', by rw [List.map_cons, decodeBindings, hdec]; exact hbs', fun r i => ?_⟩
    have hrole : r'.same r = e.1.same r := by rw [Role.same, Role.same, hname]
    have hhas : Members.has ids i = Members.has e.2 i := hperm.any_eq
    rw [hholds, Bindings.holds_grant hacc.apart hr' hids', hrole, hhas, or_assoc]
    simp [Bindings.Holds]

/-- **Canonical bindings read back.** The policy that is read holds the same, under the same tag and
version. -/
theorem Renders.decode_of_canonical {p : Policy} {fields : List (Value × Value)}
    (h : p.Renders fields) (hsound : p.bindings.Sound) (hcanonical : p.bindings.Canonical)
    (hversion : p.version = .null ∨ ∃ n, p.version = .int n) :
    ∃ bs : Bindings, decode (.map fields) = .ok ⟨.roles, bs, p.etag, p.version⟩ ∧
      bs.same p.bindings = true := by
  obtain ⟨bs, hperm, hfield⟩ := h.bindings
  obtain ⟨bs', hbs', hholds⟩ := @decodeBindings_of_canonical bs []
    (fun e he => hcanonical e (hperm.mem_iff.mp he))
    (fun e he => hsound.members_ne_nil e (hperm.mem_iff.mp he)) Bindings.Sound.nil
  refine ⟨bs', decode_map_eq_ok_iff.mpr ⟨⟨_, by rw [hfield, listOf_list], hbs'⟩, ?_, ?_, rfl⟩, ?_⟩
  · rw [h.version]
    exact decodeVersion_of_cases hversion
  · exact h.field_etag.symm
  · rw [Bindings.same_iff_holds (decodeBindings_sound hbs' Bindings.Sound.nil) hsound]
    intro r i
    rw [hholds]
    simp [Bindings.Holds, hperm.mem_iff]

end Policy

end AccessPolicy
