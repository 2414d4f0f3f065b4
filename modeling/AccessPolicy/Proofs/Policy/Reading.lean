import AccessPolicy.Policy.Document
import AccessPolicy.Proofs.Identity.MemberString
import AccessPolicy.Proofs.Policy.Building
import AccessPolicy.Proofs.Value.Field

/-!
# Reading policy documents

What is known of a policy that was read from a document, whatever the document. Reading goes binding
by binding, and each either adds nothing or grants a role to canonical members; so the bindings read
are sound. If the document is one that a service can send, all role names are full texts as well.

* `Policy.decodeBinding_cases`: what one binding of a document adds;
* `Policy.decode_map_eq_ok_iff`: a document is read through its fields `bindings`, `etag` and
  `version`, and nothing else of it matters;
* `Policy.decode_sound`, `Policy.decode_canonical`: the bindings read are sound, and canonical;
* `Policy.isAnswer_of_decode`: a document that cannot be read is not taken for an answer.
-/

namespace AccessPolicy

/-! ### Canonical bindings -/

namespace Bindings

/-- Bindings as documents have them: of roles with full names and of canonical identities. -/
def Canonical (bs : Bindings) : Prop := ∀ e ∈ bs, e.1.Full ∧ ∀ i ∈ e.2, i.Canonical

theorem Canonical.nil : Canonical [] := by simp [Canonical]

theorem Canonical.put {bs : Bindings} (h : bs.Canonical) {r : Role} (hr : r.Full) {ms : Members}
    (hms : ∀ i ∈ ms, i.Canonical) : (bs.put r ms).Canonical := by
  intro x hx
  rcases mem_put hx with hx | ⟨h2, h1 | ⟨e, he, h1⟩⟩
  · exact h x hx
  · exact ⟨h1 ▸ hr, h2 ▸ hms⟩
  · exact ⟨h1 ▸ (h e he).1, h2 ▸ hms⟩

theorem Canonical.find?_members {bs : Bindings} (h : bs.Canonical) (r : Role) :
    ∀ i ∈ (bs.find? r).getD [], i.Canonical := by
  cases hf : bs.find? r with
  | none => simp
  | some ms =>
    obtain ⟨e, he, -, rfl⟩ := find?_eq_some hf
    exact (h e he).2

theorem Canonical.grant {bs : Bindings} (h : bs.Canonical) {r : Role} (hr : r.Full)
    {ids : List Identity} (hids : ∀ i ∈ ids, i.Canonical) : (bs.grant r ids).Canonical :=
  h.put hr fun i hi => (Members.mem_union hi).elim (h.find?_members r i) (hids i)

theorem Canonical.revoke {bs : Bindings} (h : bs.Canonical) {r : Role} (hr : r.Full)
    (ids : List Identity) : (bs.revoke r ids).Canonical := by
  have hms := h.find?_members r
  unfold Bindings.revoke
  cases hf : bs.find? r with
  | none => exact h
  | some ms =>
    simp only [hf, Option.getD_some] at hms ⊢
    split
    · exact fun e he => h e (List.mem_of_mem_filter he)
    · next hrest => exact h.put hr fun i hi => hms i (Members.mem_foldl_erase (hrest ▸ hi))

end Bindings

namespace Role

theorem Full.hashable {r : Role} (h : r.Full) : r.hashable = true := by
  obtain ⟨s, hs, -⟩ := h
  simp [Role.hashable, hs, Value.hashable]

theorem full_of_text {s : String} {r : Role} (h : ofValue (.text s) = .ok r) : r.Full := by
  obtain rfl := Except.ok.inj h
  exact ⟨fullName s, rfl, slash_mem_fullName s⟩

/-- A value that names a role is a text, or it contains a slash and is the name itself. -/
theorem ofValue_cases {v : Value} {r : Role} (h : ofValue v = .ok r) :
    (∃ s, v = .text s) ∨ containsSlash v.opened = some true ∧ r.name = v := by
  unfold ofValue at h
  split at h
  · simp at h
  · exact .inl ⟨_, rfl⟩
  · by_cases hc : containsSlash v.opened = some true
    · rw [if_pos hc] at h
      obtain rfl := Except.ok.inj h
      exact .inr ⟨hc, rfl⟩
    · simp [if_neg hc] at h

/-- Of the values that a service sends, only texts name a role that may be a key. -/
theorem full_of_isJson {v : Value} (hv : v.isJson = true) {r : Role} (h : ofValue v = .ok r)
    (hr : r.hashable = true) : r.Full := by
  rcases ofValue_cases h with ⟨s, rfl⟩ | ⟨hslash, hname⟩
  · exact full_of_text h
  · rw [Value.opened_of_isJson hv] at hslash
    rw [Role.hashable, hname] at hr
    cases v with
    | text s => exact full_of_text h
    | _ => simp_all [containsSlash, Value.hashable, Value.isJson]

end Role

namespace Policy

/-! ### Bindings -/

@[simp] theorem listOf_list (items : List Value) (otherwise : Rejection) :
    listOf (.list items) otherwise = .ok items := by
  cases items <;> simp [listOf, Value.truthy]

theorem decodeMembers_canonical {items : List Value} {ids : List Identity}
    (h : decodeMembers items = .ok ids) : ∀ i ∈ ids, i.Canonical := by
  induction items generalizing ids with
  | nil =>
    obtain rfl := Except.ok.inj h
    simp
  | cons v rest ih =>
    rw [decodeMembers] at h
    split at h
    · simp at h
    · next i hi =>
      split at h
      · simp at h
      · next is his =>
        obtain rfl := Except.ok.inj h
        simpa using ⟨Identity.canonical_of_ofValue hi, ih his⟩

/-- **One binding.** A binding of a document adds nothing, or grants the role of its name to
canonical identities. -/
theorem decodeBinding_cases {bs bs' : Bindings} {v : Value} (h : decodeBinding bs v = .ok bs') :
    bs' = bs ∨ ∃ fields r ids, v.opened = .map fields ∧
      (Value.field "role" fields).truthy = true ∧
      Role.ofValue (Value.field "role" fields) = .ok r ∧ r.hashable = true ∧ ids ≠ [] ∧
      (∀ i ∈ ids, i.Canonical) ∧ bs' = bs.grant r ids := by
  unfold decodeBinding at h
  split at h
  · next fields hv =>
    dsimp only at h
    split at h
    · simp at h
    · split at h
      · simp at h
      · next hnamed =>
        split at h
        · simp at h
        · split at h
          · simp at h
          · exact .inl (Except.ok.inj h).symm
          · next i is hids =>
            split at h
            · simp at h
            · next r hrole =>
              split at h
              · next hr =>
                exact .inr ⟨fields, r, i :: is, hv, by simpa using hnamed, hrole, hr, by simp,
                  decodeMembers_canonical hids, (Except.ok.inj h).symm⟩
              · simp at h
  · simp at h

/-- What each binding of a document keeps, all of them keep. -/
theorem decodeBindings_keeps {P : Bindings → Prop} {items : List Value} {acc bs : Bindings}
    (h : decodeBindings items acc = .ok bs)
    (hstep : ∀ v ∈ items, ∀ bs bs', decodeBinding bs v = .ok bs' → P bs → P bs')
    (hacc : P acc) : P bs := by
  induction items generalizing acc with
  | nil =>
    obtain rfl := Except.ok.inj h
    exact hacc
  | cons v rest ih =>
    rw [decodeBindings] at h
    split at h
    · simp at h
    · next bs' hv =>
      exact ih h (fun w hw => hstep w (by simp [hw])) (hstep v (by simp) acc bs' hv hacc)

theorem decodeBindings_sound {items : List Value} {acc bs : Bindings}
    (h : decodeBindings items acc = .ok bs) (hacc : acc.Sound) : bs.Sound := by
  refine decodeBindings_keeps h (fun v _ bs bs' hv hbs => ?_) hacc
  rcases decodeBinding_cases hv with rfl | ⟨_, r, ids, -, -, -, hr, hne, hids, rfl⟩
  · exact hbs
  · exact hbs.grant hr (fun i hi => (hids i hi).textual.hashable) hne

theorem decodeBindings_canonical {items : List Value} {acc bs : Bindings}
    (hitems : Value.allJson items = true) (h : decodeBindings items acc = .ok bs)
    (hacc : acc.Canonical) : bs.Canonical := by
  refine decodeBindings_keeps h (fun v hv bs bs' hdec hbs => ?_) hacc
  rcases decodeBinding_cases hdec with rfl | ⟨fields, r, ids, hopen, -, hrole, hr, -, hids, rfl⟩
  · exact hbs
  · -- a role in a tree of texts is named by a text, since lists and maps may not be keys
    have hjson := Value.allJson_iff.mp hitems v hv
    rw [Value.opened_of_isJson hjson] at hopen
    subst hopen
    have hfields : Value.fieldsJson fields = true := by simpa [Value.isJson] using hjson
    have hname := Value.isJson_field hfields "role"
    exact hbs.grant (Role.full_of_isJson hname hrole hr) hids

/-! ### Versions -/

/-- A version that was read is null or an integer. -/
theorem decodeVersion_cases {v version : Value} (h : decodeVersion v = .ok version) :
    version = .null ∨ ∃ n, version = .int n := by
  unfold decodeVersion at h
  split at h
  · exact .inl (Except.ok.inj h).symm
  · exact .inr ⟨_, (Except.ok.inj h).symm⟩
  · exact .inr ⟨_, (Except.ok.inj h).symm⟩
  · split at h
    · simp at h
    · simp at h
    · exact .inr ⟨_, (Except.ok.inj h).symm⟩
  · split at h
    · exact .inr ⟨_, (Except.ok.inj h).symm⟩
    · simp at h
  · split at h
    · exact .inr ⟨_, (Except.ok.inj h).symm⟩
    · simp at h
    · simp at h
  · simp at h

/-- A version that was read is read as it is. -/
theorem decodeVersion_of_cases {v : Value} (h : v = .null ∨ ∃ n, v = .int n) :
    decodeVersion v = .ok v := by
  rcases h with rfl | ⟨n, rfl⟩ <;> rfl

/-! ### Documents -/

/-- **Reading a map.** What is read depends on three fields only. -/
theorem decode_map_eq_ok_iff {fields : List (Value × Value)} {p : Policy} :
    decode (.map fields) = .ok p ↔
      (∃ items, listOf (Value.field "bindings" fields) .bindingsNotList = .ok items ∧
        decodeBindings items [] = .ok p.bindings) ∧
      decodeVersion (Value.field "version" fields) = .ok p.version ∧
      p.etag = Value.field "etag" fields ∧ p.family = .roles := by
  constructor
  · intro h
    simp only [decode, Value.opened_map] at h
    split at h
    · simp at h
    · next items hitems =>
      split at h
      · simp at h
      · next bs hbs =>
        split at h
        · simp at h
        · next version hversion =>
          -- the builder at the end takes the bindings as they are
          rw [Builder.make_of_sound (decodeBindings_sound hbs Bindings.Sound.nil)] at h
          obtain rfl := Except.ok.inj h
          exact ⟨⟨items, hitems, hbs⟩, hversion, rfl, rfl⟩
  · rintro ⟨⟨items, hitems, hbs⟩, hversion, hetag, hfamily⟩
    simp only [decode, Value.opened_map, hitems, hbs, hversion,
      Builder.make_of_sound (decodeBindings_sound hbs Bindings.Sound.nil), Builder.build,
      ← hetag, ← hfamily]

/-- A document that can be read is a map. -/
theorem opened_of_decode {document : Value} {p : Policy} (h : decode document = .ok p) :
    ∃ fields, document.opened = .map fields ∧ decode (.map fields) = .ok p := by
  unfold decode at h
  split at h
  · simp at h
  · next fields hopen => exact ⟨fields, hopen, by simpa [decode] using h⟩
  · simp at h

/-- A new tag makes a new tag, and no difference otherwise. -/
theorem decode_putField_etag {fields : List (Value × Value)} {p : Policy} {etag : Value} :
    decode (.map (Value.putField "etag" etag fields)) = .ok p ↔
      p.etag = etag ∧
        decode (.map fields) = .ok { p with etag := Value.field "etag" fields } := by
  simp only [decode_map_eq_ok_iff, Value.field_putField_self,
    Value.field_putField_of_ne (show "bindings" ≠ "etag" by decide),
    Value.field_putField_of_ne (show "version" ≠ "etag" by decide)]
  tauto

/-- **The bindings read are sound.** -/
theorem decode_sound {document : Value} {p : Policy} (h : decode document = .ok p) :
    p.bindings.Sound := by
  obtain ⟨fields, -, h⟩ := opened_of_decode h
  obtain ⟨⟨items, -, hbs⟩, -⟩ := decode_map_eq_ok_iff.mp h
  exact decodeBindings_sound hbs Bindings.Sound.nil

/-- **The members read are canonical**, whatever the document. -/
theorem decode_members_canonical {document : Value} {p : Policy}
    (h : decode document = .ok p) : ∀ e ∈ p.bindings, ∀ i ∈ e.2, i.Canonical := by
  obtain ⟨fields, -, h⟩ := opened_of_decode h
  obtain ⟨⟨items, -, hbs⟩, -⟩ := decode_map_eq_ok_iff.mp h
  refine decodeBindings_keeps (P := fun bs => ∀ e ∈ bs, ∀ i ∈ e.2, i.Canonical) hbs
    (fun v _ bs bs' hv hbs => ?_) (by simp)
  rcases decodeBinding_cases hv with rfl | ⟨_, r, ids, -, -, -, -, -, hids, rfl⟩
  · exact hbs
  · intro e he i hi
    rcases Bindings.mem_put he with he | ⟨hms, -⟩
    · exact hbs e he i hi
    · rcases Members.mem_union (hms ▸ hi) with hold | hnew
      · cases hfind : bs.find? r with
        | none => simp [hfind] at hold
        | some ms =>
          obtain ⟨e', he', -, rfl⟩ := Bindings.find?_eq_some hfind
          exact hbs e' he' i (by simpa [hfind] using hold)
      · exact hids i hnew

/-- **The bindings read from a service are canonical.** -/
theorem decode_canonical {fields : List (Value × Value)} (hjson : Value.fieldsJson fields = true)
    {p : Policy} (h : decode (.map fields) = .ok p) : p.bindings.Canonical := by
  obtain ⟨⟨items, hitems, hbs⟩, -⟩ := decode_map_eq_ok_iff.mp h
  have hfield := Value.isJson_field hjson "bindings"
  refine decodeBindings_canonical ?_ hbs Bindings.Canonical.nil
  unfold listOf at hitems
  split at hitems
  · obtain rfl := Except.ok.inj hitems
    rfl
  · rw [Value.opened_of_isJson hfield] at hitems
    split at hitems
    · next items' heq =>
      obtain rfl := Except.ok.inj hitems
      simpa [heq, Value.isJson] using hfield
    · simp at hitems

end Policy

/-! ### Documents that cannot be read -/

/-- Whether a failure is an answer of the service. -/
def Failure.isAnswer : Failure → Bool
  | service _ _ => true
  | _ => false

theorem Failure.isAnswer_of_eq {α : Type} {e e' : Failure}
    (h : (.error e' : Except Failure α) = .error e) (he : e'.isAnswer = false) :
    e.isAnswer = false :=
  Except.error.inj h ▸ he

namespace Policy

open Failure (isAnswer_of_eq)

private theorem listOf_error {v : Value} {otherwise : Rejection} {e : Failure}
    (h : listOf v otherwise = .error e) : e.isAnswer = false := by
  unfold listOf at h
  split at h
  · simp at h
  · split at h
    · simp at h
    · exact isAnswer_of_eq h rfl

private theorem decodeMembers_error {items : List Value} {e : Failure}
    (h : decodeMembers items = .error e) : e.isAnswer = false := by
  induction items generalizing e with
  | nil => simp [decodeMembers] at h
  | cons v rest ih =>
    rw [decodeMembers] at h
    split at h
    · exact isAnswer_of_eq h rfl
    · split at h
      · next hrest => exact isAnswer_of_eq h (ih hrest)
      · simp at h

private theorem ofValue_error {v : Value} {e : Failure} (h : Role.ofValue v = .error e) :
    e.isAnswer = false := by
  unfold Role.ofValue at h
  split at h
  · exact isAnswer_of_eq h rfl
  · simp at h
  · by_cases hc : Role.containsSlash v.opened = some true
    · simp [if_pos hc] at h
    · rw [if_neg hc] at h
      exact isAnswer_of_eq h rfl

private theorem decodeBinding_error {bs : Bindings} {v : Value} {e : Failure}
    (h : decodeBinding bs v = .error e) : e.isAnswer = false := by
  unfold decodeBinding at h
  split at h
  · dsimp only at h
    split at h
    · exact isAnswer_of_eq h rfl
    · split at h
      · exact isAnswer_of_eq h rfl
      · split at h
        · next hlist => exact isAnswer_of_eq h (listOf_error hlist)
        · split at h
          · next hmembers => exact isAnswer_of_eq h (decodeMembers_error hmembers)
          · simp at h
          · split at h
            · next hrole => exact isAnswer_of_eq h (ofValue_error hrole)
            · split at h
              · simp at h
              · exact isAnswer_of_eq h rfl
  · exact isAnswer_of_eq h rfl

private theorem decodeBindings_error {items : List Value} {acc : Bindings} {e : Failure}
    (h : decodeBindings items acc = .error e) : e.isAnswer = false := by
  induction items generalizing acc with
  | nil => simp [decodeBindings] at h
  | cons v rest ih =>
    rw [decodeBindings] at h
    split at h
    · next hv => exact isAnswer_of_eq h (decodeBinding_error hv)
    · exact ih h

private theorem decodeVersion_error {v : Value} {e : Failure} (h : decodeVersion v = .error e) :
    e.isAnswer = false := by
  unfold decodeVersion at h
  split at h
  · simp at h
  · simp at h
  · simp at h
  · split at h
    · exact isAnswer_of_eq h rfl
    · exact isAnswer_of_eq h rfl
    · simp at h
  · split at h
    · simp at h
    · exact isAnswer_of_eq h rfl
  · split at h
    · simp at h
    · exact isAnswer_of_eq h rfl
    · exact isAnswer_of_eq h rfl
  · exact isAnswer_of_eq h rfl

/-- **Documents that cannot be read.** The failure is never taken for an answer of the service. -/
theorem isAnswer_of_decode {document : Value} {e : Failure} (h : decode document = .error e) :
    e.isAnswer = false := by
  unfold decode at h
  split at h
  · exact isAnswer_of_eq h rfl
  · split at h
    · next hlist => exact isAnswer_of_eq h (listOf_error hlist)
    · split at h
      · next hbs => exact isAnswer_of_eq h (decodeBindings_error hbs)
      · next hbs =>
        split at h
        · next hversion => exact isAnswer_of_eq h (decodeVersion_error hversion)
        · rw [Builder.make_of_sound (decodeBindings_sound hbs Bindings.Sound.nil)] at h
          simp at h
  · exact isAnswer_of_eq h rfl

end Policy

end AccessPolicy
