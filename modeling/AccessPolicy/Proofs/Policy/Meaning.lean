import AccessPolicy.Proofs.Policy.Grammar
import Mathlib.Data.List.Induction

/-!
# The meaning of policy documents

A document that can be read as a policy lists, binding by binding, which identities hold which
roles. The policy that is read holds just what is listed, with the roles in the order in which the
document first gives them members; a builder that is called once for each binding builds the same
policy. So it makes no difference how the document arranges its bindings.

* `Policy.Entry.Lists`: what a binding lists;
* `Policy.Means`: what a document has to do with the policy that is read from it;
* `Policy.Rearranged`: bindings that are arranged in another way;
* `Policy.means_of_decode`: a document means what is read from it, in whatever arrangement.
-/

namespace AccessPolicy

namespace Policy

/-! ### What a binding lists -/

namespace Entry

/-- Whether a binding of a document lists an identity under a role: it names the role, be it without
`roles/` before a bare name, and has a member string that is read as the identity. -/
def Lists (v : Value) (r : Role) (i : Identity) : Prop :=
  (∃ s, role v = .text s ∧ r.name = .text (Role.fullName s)) ∧
    ∃ m, .text m ∈ members v ∧ Identity.parse m = .ok i

/-- The call of a builder that grants the role of a binding to its members. -/
def call (v : Value) : Builder.Call :=
  .addIdentity (Role.ofValue (role v)).toOption
    ((members v).map fun m => (Identity.ofValue m).toOption)

theorem mem_identities {v : Value} {i : Identity} :
    i ∈ identities v ↔ ∃ m ∈ members v, Identity.ofValue m = .ok i := by
  rw [identities, List.mem_filterMap]
  refine exists_congr fun m => and_congr_right fun _ => ?_
  cases Identity.ofValue m <;> simp [Except.toOption]

theorem identities_textual {v : Value} : ∀ i ∈ identities v, i.Textual := by
  intro i hi
  obtain ⟨m, -, hm⟩ := mem_identities.mp hi
  exact (Identity.canonical_of_ofValue hm).textual

theorem identities_hashable {v : Value} : ∀ i ∈ identities v, i.hashable = true :=
  fun i hi => (identities_textual i hi).hashable

namespace WellFormed

variable {v : Value}

/-- Each member is read as one identity. -/
theorem map_members (h : WellFormed v) :
    ((members v).map fun m => (Identity.ofValue m).toOption) = (identities v).map some := by
  have hall : ∀ m ∈ members v, ∃ i, (Identity.ofValue m).toOption = some i := by
    intro m hm
    obtain ⟨s, rfl, hs⟩ := h.readable m hm
    obtain ⟨i, hi⟩ := Identity.exists_parse_iff.mpr hs
    exact ⟨i, by rw [Identity.ofValue, hi]; rfl⟩
  unfold identities
  generalize members v = ms at hall
  induction ms with
  | nil => rfl
  | cons m rest ih =>
    obtain ⟨i, hi⟩ := hall m (by simp)
    have hrest := ih fun x hx => hall x (by simp [hx])
    rw [List.map_cons, hrest, hi]
    simp [hi]

theorem identities_ne_nil (h : WellFormed v) (hne : members v ≠ []) : identities v ≠ [] := by
  intro hnil
  have hmap := h.map_members
  rw [hnil, List.map_nil, List.map_eq_nil_iff] at hmap
  exact hne hmap

/-- The role of a binding with members is named by a text. -/
theorem exists_role (h : WellFormed v) (hne : members v ≠ []) :
    ∃ s, role v = .text s ∧ roleName v = Role.fullName s := by
  obtain ⟨s, hs⟩ := h.textual hne
  exact ⟨s, hs, by rw [roleName, hs]⟩

/-- What a binding lists, said through what is granted. -/
theorem lists_iff (h : WellFormed v) {r : Role} {i : Identity} :
    Lists v r i ↔ r.name = .text (roleName v) ∧ i ∈ identities v := by
  have hmem : i ∈ identities v ↔ ∃ m, .text m ∈ members v ∧ Identity.parse m = .ok i := by
    rw [mem_identities]
    constructor
    · rintro ⟨m, hm, hi⟩
      obtain ⟨s, rfl, -⟩ := h.readable m hm
      exact ⟨s, hm, hi⟩
    · rintro ⟨s, hs, hi⟩
      exact ⟨_, hs, hi⟩
  rw [Lists, hmem]
  refine and_congr_left ?_
  rintro ⟨m, hm, -⟩
  obtain ⟨s, hs, hname⟩ := h.exists_role (List.ne_nil_of_mem hm)
  rw [hname, hs]
  constructor
  · rintro ⟨t, ht, hr⟩
    obtain rfl := Value.text.inj ht
    exact hr
  · exact fun hr => ⟨s, rfl, hr⟩

end WellFormed

/-! ### What a binding grants -/

theorem grant_of_nil {v : Value} (h : members v = []) (bs : Bindings) : grant bs v = bs := by
  simp [grant, h]

theorem grant_of_ne_nil {v : Value} (h : members v ≠ []) (bs : Bindings) :
    grant bs v = bs.grant (Role.ofName (roleName v)) (identities v) := by
  simp [grant, h]

theorem grant_sound {v : Value} (hv : WellFormed v) {bs : Bindings} (hbs : bs.Sound) :
    (grant bs v).Sound := by
  by_cases hne : members v = []
  · rwa [grant_of_nil hne]
  · rw [grant_of_ne_nil hne]
    exact hbs.grant rfl identities_hashable (hv.identities_ne_nil hne)

/-- **One binding.** What is held after a binding was held before, or the binding lists it. -/
theorem holds_grant {v : Value} (hv : WellFormed v) {bs : Bindings} (hbs : bs.Sound) (r : Role)
    (i : Identity) : (grant bs v).Holds r i ↔ bs.Holds r i ∨ Lists v r i := by
  rw [hv.lists_iff]
  by_cases hne : members v = []
  · have hnone : i ∉ identities v := by
      rw [mem_identities, hne]
      simp
    simp [grant_of_nil hne, hnone]
  · rw [grant_of_ne_nil hne, Bindings.holds_grant hbs.apart rfl identities_hashable,
      Members.has_iff_mem identities_textual, Role.ofName_same_iff]

/-- The call for a binding with members does what the binding grants. -/
theorem apply_call {v : Value} (hv : WellFormed v) (hne : members v ≠ []) {b : Builder}
    (hb : b.bindings.Sound) :
    b.apply (call v) = ({ b with bindings := grant b.bindings v }, none) := by
  obtain ⟨s, hs, hname⟩ := hv.exists_role hne
  have hrole : Role.ofValue (role v) = .ok (Role.ofName (roleName v)) := by rw [hs, hname]; rfl
  have hadd := @Builder.addIdentity_of_hashable b (Role.ofName (roleName v)) rfl (identities v)
    identities_hashable (hv.identities_ne_nil hne)
  have hunion : b.bindings.grant (Role.ofName (roleName v)) (Members.union [] (identities v)) =
      grant b.bindings v := by
    rw [grant_of_ne_nil hne, Bindings.grant, Bindings.grant,
      Members.union_union identities_hashable (hb.apart.find?_members _) Members.Sound.nil]
    rfl
  rw [call, hv.map_members, hrole, Builder.apply]
  simp only [Except.toOption, hadd, Builder.settle, hunion]

end Entry

/-! ### Bindings in turn -/

/-- **All bindings.** What is held after bindings was held before, or one of them lists it. -/
theorem holds_foldl_grant {items : List Value} (h : ∀ v ∈ items, Entry.WellFormed v)
    {acc : Bindings} (hacc : acc.Sound) (r : Role) (i : Identity) :
    (items.foldl Entry.grant acc).Holds r i ↔
      acc.Holds r i ∨ ∃ v ∈ items, Entry.Lists v r i := by
  induction items generalizing acc with
  | nil => simp
  | cons v rest ih =>
    have hv := h v (by simp)
    rw [List.foldl_cons, ih (fun w hw => h w (by simp [hw])) (Entry.grant_sound hv hacc),
      Entry.holds_grant hv hacc, or_assoc]
    simp

/-- Whether a binding has members. -/
def Entry.hasMembers (v : Value) : Bool := !(members v).isEmpty

private theorem find?_ofName_eq_none {bs : Bindings} {names : List String}
    (h : bs.map Prod.fst = names.map Role.ofName) (n : String) :
    bs.find? (Role.ofName n) = none ↔ n ∉ names := by
  have hmem : ∀ r, (∃ e ∈ bs, e.1 = r) ↔ ∃ m ∈ names, Role.ofName m = r := fun r => by
    rw [← List.mem_map, ← List.mem_map, h]
  rw [Bindings.find?_eq_none, ← not_iff_not, not_not]
  push Not
  constructor
  · rintro ⟨e, he, hsame⟩
    obtain ⟨m, hm, hrole⟩ := (hmem e.1).mp ⟨e, he, rfl⟩
    rw [← hrole, Bool.ne_false_iff, Role.ofName_same_iff] at hsame
    rwa [Value.text.inj hsame]
  · intro hn
    obtain ⟨e, he, hrole⟩ := (hmem (Role.ofName n)).mpr ⟨n, hn, rfl⟩
    refine ⟨e, he, ?_⟩
    rw [hrole, Bool.ne_false_iff, Role.ofName_same_iff]
    rfl

/-- **The order of roles.** After bindings the roles come in the order in which they were first
given members. -/
theorem map_fst_foldl_grant (items : List Value) :
    (items.foldl Entry.grant []).map Prod.fst =
      ((items.filter Entry.hasMembers).map Entry.roleName).eraseDups.map Role.ofName := by
  induction items using List.reverseRecOn with
  | nil => rfl
  | append_singleton items v ih =>
    rw [List.foldl_append, List.filter_append, List.map_append, List.foldl_cons, List.foldl_nil]
    by_cases hne : Entry.members v = []
    · have hnone : [v].filter Entry.hasMembers = [] := by simp [Entry.hasMembers, hne]
      rw [Entry.grant_of_nil hne, hnone, List.map_nil, List.append_nil, ih]
    · have hsome : [v].filter Entry.hasMembers = [v] := by simp [Entry.hasMembers, hne]
      have hfind := find?_ofName_eq_none ih (Entry.roleName v)
      rw [List.mem_eraseDups] at hfind
      rw [Entry.grant_of_ne_nil hne, hsome, List.map_singleton, List.eraseDups_append,
        List.map_append, ← ih]
      generalize (items.filter Entry.hasMembers).map Entry.roleName = names at *
      generalize items.foldl Entry.grant [] = bs at *
      by_cases hn : Entry.roleName v ∈ names
      · obtain ⟨ms, hms⟩ := Option.ne_none_iff_exists'.mp (mt hfind.mp (not_not.mpr hn))
        have hold : [Entry.roleName v].removeAll names = [] := by
          simp [List.removeAll, hn]
        rw [hold, Bindings.grant]
        simpa using Bindings.map_fst_put hms _
      · have hnew : [Entry.roleName v].removeAll names = [Entry.roleName v] := by
          simp [List.removeAll, hn]
        rw [hnew, Bindings.grant, Bindings.put_of_find?_eq_none (hfind.mpr hn)]
        simp [List.eraseDups_cons]

/-- **The calls for bindings.** Called once for each binding that has members, a builder grants what
the bindings grant, and no call fails. -/
theorem applyAll_calls {items : List Value} (h : ∀ v ∈ items, Entry.WellFormed v) {b : Builder}
    (hb : b.bindings.Sound) :
    b.applyAll ((items.filter Entry.hasMembers).map fun v => .ok (Entry.call v)) =
      .ok { b with bindings := items.foldl Entry.grant b.bindings } := by
  induction items generalizing b with
  | nil => rfl
  | cons v rest ih =>
    have hv := h v (by simp)
    have hrest : ∀ w ∈ rest, Entry.WellFormed w := fun w hw => h w (by simp [hw])
    rw [List.foldl_cons]
    by_cases hne : Entry.members v = []
    · rw [List.filter_cons_of_neg (by simp [Entry.hasMembers, hne]), ih hrest hb,
        Entry.grant_of_nil hne]
    · rw [List.filter_cons_of_pos (by simp [Entry.hasMembers, hne]), List.map_cons,
        Builder.applyAll, Entry.apply_call hv hne hb]
      exact ih hrest (Entry.grant_sound hv hb)

/-! ### The meaning of a document -/

/-- What a document has to do with the policy that is read from it. -/
structure Means (fields : List (Value × Value)) (p : Policy) : Prop where
  /-- It is a policy of roles. -/
  family : p.family = .roles
  /-- A role is held by an identity exactly if a binding of the document lists it. -/
  holds : ∀ r i, p.bindings.Holds r i ↔
    ∃ v ∈ (Value.field "bindings" fields).listed, Entry.Lists v r i
  /-- A role has a binding exactly if a binding of the document lists someone under it. -/
  hasRole : ∀ r, p.bindings.HasRole r ↔
    ∃ v ∈ (Value.field "bindings" fields).listed, ∃ i, Entry.Lists v r i
  /-- The roles come in the order of the first bindings of the document that give them members. -/
  order : p.bindings.map Prod.fst =
    (((Value.field "bindings" fields).listed.filter Entry.hasMembers).map
      Entry.roleName).eraseDups.map Role.ofName
  /-- The tag is that of the document, or null. -/
  etag : p.etag = Value.field "etag" fields
  /-- The version is the integer that the version of the document stands for, or null. -/
  version : VersionOf (Value.field "version" fields) p.version
  /-- A builder without bindings builds it when it is called once for each binding with members. -/
  built : ∃ b, Builder.applyAll ⟨.roles, [], Value.field "etag" fields, p.version⟩
      (((Value.field "bindings" fields).listed.filter Entry.hasMembers).map fun v =>
        .ok (Entry.call v)) = .ok b ∧ b.build = p

/-- What is read from a document is what it means. -/
private theorem means_of_read {fields : List (Value × Value)}
    (hjson : Value.fieldsJson fields = true) {p : Policy} (hread : decode (.map fields) = .ok p) :
    Means fields p := by
  have hsound := decode_sound hread
  obtain ⟨-, hwell, hversion, hp⟩ := (decode_eq_ok_iff hjson).mp hread
  have hbindings : p.bindings =
      (Value.field "bindings" fields).listed.foldl Entry.grant [] := by rw [hp]
  have hholds : ∀ r i, p.bindings.Holds r i ↔
      ∃ v ∈ (Value.field "bindings" fields).listed, Entry.Lists v r i := by
    intro r i
    rw [hbindings, holds_foldl_grant hwell Bindings.Sound.nil]
    simp [Bindings.Holds]
  refine ⟨by rw [hp], hholds, fun r => ?_, ?_, by rw [hp], hversion, ?_⟩
  · rw [hsound.hasRole_iff]
    simp only [hholds]
    tauto
  · rw [hbindings, map_fst_foldl_grant]
  · exact ⟨_, applyAll_calls hwell Bindings.Sound.nil, hp.symm⟩

/-! ### Arrangements -/

/-- A binding of a document without a condition that names a role and lists members, whatever else
it holds. -/
structure Entry.Consists (v role : Value) (ms : List Value) : Prop where
  /-- It is a map without a condition. -/
  unconditional : ∃ fields, v = .map fields ∧ Value.field? "condition" fields = none
  /-- What it names as its role. -/
  role_eq : Entry.role v = role
  /-- Its members are a list, or left out. -/
  isListed : (field "members" v).IsListed
  /-- What it lists as its members. -/
  members_eq : members v = ms

/-- Bindings of a document that are arranged in another way. -/
inductive Rearranged : List Value → List Value → Prop where
  /-- Bindings may stay as they are. -/
  | refl (items : List Value) : Rearranged items items
  /-- What may be done may be undone. -/
  | symm {items items' : List Value} (h : Rearranged items items') : Rearranged items' items
  /-- Bindings may be rearranged again and again. -/
  | trans {items items' items'' : List Value} (h : Rearranged items items')
    (h' : Rearranged items' items'') : Rearranged items items''
  /-- Bindings may come in another order. -/
  | reorder {items items' : List Value} (h : items.Perm items') : Rearranged items items'
  /-- The members of a binding may come in another order, and repeat. -/
  | members {v v' role : Value} {ms ms' : List Value} (hv : Entry.Consists v role ms)
    (hv' : Entry.Consists v' role ms') (h : ∀ m, m ∈ ms ↔ m ∈ ms') (rest : List Value) :
    Rearranged (v :: rest) (v' :: rest)
  /-- A binding may be split into two of its role. -/
  | split {v v₁ v₂ role : Value} {ms₁ ms₂ : List Value} (hv : Entry.Consists v role (ms₁ ++ ms₂))
    (hv₁ : Entry.Consists v₁ role ms₁) (hv₂ : Entry.Consists v₂ role ms₂) (rest : List Value) :
    Rearranged (v :: rest) (v₁ :: v₂ :: rest)
  /-- A bare name of a role may be written with `roles/` before it. -/
  | spell {v v' : Value} {s : String} {ms : List Value} (hs : s ≠ "") (hbare : '/' ∉ s.toList)
    (hv : Entry.Consists v (.text s) ms)
    (hv' : Entry.Consists v' (.text (Role.collection ++ s)) ms) (rest : List Value) :
    Rearranged (v :: rest) (v' :: rest)

namespace Entry.Consists

variable {v role : Value} {ms : List Value}

theorem wellFormed_iff (h : Consists v role ms) :
    WellFormed v ↔ ¬ role.IsVoid ∧
      ∀ m ∈ ms, (∃ s, m = .text s ∧ IsMemberString s) ∧ ∃ s, role = .text s := by
  obtain ⟨hfields, rfl, hlisted, rfl⟩ := h
  constructor
  · rintro ⟨-, hnamed, -, hreadable, htextual⟩
    exact ⟨hnamed, fun m hm => ⟨hreadable m hm, htextual (List.ne_nil_of_mem hm)⟩⟩
  · rintro ⟨hnamed, hall⟩
    refine ⟨hfields, hnamed, hlisted, fun m hm => (hall m hm).1, fun hne => ?_⟩
    obtain ⟨m, hm⟩ := List.exists_mem_of_ne_nil _ hne
    exact (hall m hm).2

theorem lists_iff (h : Consists v role ms) {r : Role} {i : Identity} :
    Lists v r i ↔ (∃ s, role = .text s ∧ r.name = .text (Role.fullName s)) ∧
      ∃ m, .text m ∈ ms ∧ Identity.parse m = .ok i := by
  rw [Lists, h.role_eq, h.members_eq]

end Entry.Consists

/-- **Arrangements.** Bindings that are arranged in another way are as well-formed, and list the
same. -/
theorem Rearranged.alike {items items' : List Value} (h : Rearranged items items') :
    ((∀ v ∈ items, Entry.WellFormed v) ↔ ∀ v ∈ items', Entry.WellFormed v) ∧
      ∀ r i, (∃ v ∈ items, Entry.Lists v r i) ↔ ∃ v ∈ items', Entry.Lists v r i := by
  induction h with
  | refl items => exact ⟨Iff.rfl, fun _ _ => Iff.rfl⟩
  | symm _ ih => exact ⟨ih.1.symm, fun r i => (ih.2 r i).symm⟩
  | trans _ _ ih ih' => exact ⟨ih.1.trans ih'.1, fun r i => (ih.2 r i).trans (ih'.2 r i)⟩
  | reorder h => simp only [h.mem_iff, implies_true, and_self]
  | members hv hv' h rest =>
    simp only [List.forall_mem_cons, List.exists_mem_cons_iff, hv.wellFormed_iff,
      hv'.wellFormed_iff, hv.lists_iff, hv'.lists_iff, h, implies_true, and_self]
  | split hv hv₁ hv₂ rest =>
    constructor
    · simp only [List.forall_mem_cons, hv.wellFormed_iff, hv₁.wellFormed_iff, hv₂.wellFormed_iff,
        List.forall_mem_append]
      tauto
    · intro r i
      simp only [List.exists_mem_cons_iff, hv.lists_iff, hv₁.lists_iff, hv₂.lists_iff,
        List.mem_append, or_and_right, exists_or, and_or_left, or_assoc]
  | @spell v v' s ms hs hbare hv hv' rest =>
    have hvoid : ∀ t : String, t ≠ "" → ¬ (Value.text t).IsVoid := by
      rintro t ht ⟨⟩
      exact ht rfl
    have hfull : Role.fullName (Role.collection ++ s) = Role.fullName s := by
      have hslash : '/' ∈ (Role.collection ++ s).toList := by simp [Role.collection]
      rw [Role.fullName_of_mem hslash, Role.fullName, if_neg hbare]
    have hne : Role.collection ++ s ≠ "" := by simp [Role.collection]
    simp only [List.forall_mem_cons, List.exists_mem_cons_iff, hv.wellFormed_iff,
      hv'.wellFormed_iff, hv.lists_iff, hv'.lists_iff, hvoid s hs, hvoid _ hne, Value.text.injEq,
      exists_eq_left', exists_eq', hfull, implies_true, and_self]

/-- A document with the bindings of another one in another arrangement. -/
structure IsRearrangement (fields fields' : List (Value × Value)) : Prop where
  /-- Its bindings are a list, or left out. -/
  isListed : (Value.field "bindings" fields').IsListed
  /-- They are arranged in another way. -/
  bindings : Rearranged (Value.field "bindings" fields).listed
    (Value.field "bindings" fields').listed
  /-- Its tag is the same. -/
  etag : Value.field "etag" fields' = Value.field "etag" fields
  /-- Its version is the same. -/
  version : Value.field "version" fields' = Value.field "version" fields

/-- **The meaning of documents.** What is read from a document holds what the document lists, and no
more. In another arrangement the document is read as well, and as an equal policy. (A tag that is no
number, which no service sends, would differ from itself.) -/
theorem means_of_decode {fields : List (Value × Value)} (hjson : Value.fieldsJson fields = true)
    {p : Policy} (hread : decode (.map fields) = .ok p) :
    Means fields p ∧ ∀ fields', Value.fieldsJson fields' = true → IsRearrangement fields fields' →
      ∃ p', decode (.map fields') = .ok p' ∧
        (p.etag ≠ .float .notANumber → p'.same p = true) := by
  have hmeans := means_of_read hjson hread
  refine ⟨hmeans, fun fields' hjson' h => ?_⟩
  obtain ⟨-, hwell, hversion, -⟩ := (decode_eq_ok_iff hjson).mp hread
  obtain ⟨hwell', hlists⟩ := h.bindings.alike
  have hread' : decode (.map fields') = .ok ⟨.roles,
      (Value.field "bindings" fields').listed.foldl Entry.grant [], p.etag, p.version⟩ := by
    refine (decode_eq_ok_iff hjson').mpr ⟨h.isListed, hwell'.mp hwell, ?_, ?_⟩
    · rw [h.version]
      exact hversion
    · rw [h.etag, hmeans.etag]
  refine ⟨_, hread', fun hnumber => ?_⟩
  have hbindings : Bindings.same ((Value.field "bindings" fields').listed.foldl Entry.grant [])
      p.bindings = true := by
    rw [Bindings.same_iff_holds (decode_sound hread') (decode_sound hread)]
    intro r i
    rw [hmeans.holds, hlists]
    exact (means_of_read hjson' hread').holds r i
  have hetag : sameField p.etag p.etag = true := by
    refine sameField_of_same (Value.same_self_of_isJson ?_) hnumber
    rw [hmeans.etag]
    exact Value.isJson_field hjson "etag"
  have hversion : sameField p.version p.version = true := by
    rcases decodeVersion_cases (decode_map_eq_ok_iff.mp hread).2.1 with hv | ⟨n, hv⟩ <;> rw [hv] <;>
      exact sameField_of_same (Value.same_refl rfl) (by simp)
  simp [same, hmeans.family, hbindings, hetag, hversion]

/-- A document that lists a role twice, once by its bare name, and one without members between; and
the same with one binding of the role. -/
theorem means_of_decode_two_spellings :
    let entry (role : String) (ms : List String) : Value :=
      .ofFields [("role", .text role), ("members", .list (ms.map .text))]
    let fields (items : List Value) : List (Value × Value) := [(.text "bindings", .list items)]
    let items := [entry "viewer" ["user:ann", "user:bob"], entry "roles/editor" [],
      entry "roles/viewer" ["user:bob"]]
    let items' := [entry "roles/editor" [], entry "roles/viewer" ["user:bob", "user:ann"]]
    ∃ p p', decode (.map (fields items)) = .ok p ∧ Means (fields items) p ∧
      decode (.map (fields items')) = .ok p' ∧ p'.same p = true := by
  intro entry fields items items'
  have hentry : ∀ role ms, Entry.Consists (entry role ms) (.text role) (ms.map .text) :=
    fun role ms => ⟨⟨_, rfl, rfl⟩, rfl, .inr ⟨_, rfl⟩, rfl⟩
  have hread : decode (.map (fields items)) = .ok ⟨.roles, [(Role.ofName "roles/viewer",
      [⟨.user, .text "ann"⟩, ⟨.user, .text "bob"⟩])], .null, .null⟩ := by
    with_unfolding_all rfl
  have harranged : Rearranged items items' := by
    -- the name is written in full, the bindings of the role are merged, and their members sorted
    refine .trans (.spell (by decide) (by decide) (hentry _ _) (hentry "roles/viewer" _) _) ?_
    refine .trans (.reorder (.cons _ (.swap _ _ _))) ?_
    refine .trans (.symm (.split (hentry _ ["user:ann", "user:bob", "user:bob"]) (hentry _ _)
      (hentry _ _) _)) ?_
    refine .trans (.members (hentry _ _) (hentry _ ["user:bob", "user:ann"]) ?_ _) ?_
    · intro m
      simp only [List.map_cons, List.map_nil, List.mem_cons, List.not_mem_nil]
      tauto
    · exact .reorder (.swap _ _ _)
  obtain ⟨hmeans, hall⟩ := means_of_decode rfl hread
  obtain ⟨p', hp', hsame⟩ := hall (fields items') rfl ⟨.inr ⟨_, rfl⟩, harranged, rfl, rfl⟩
  exact ⟨_, p', hread, hmeans, hp', hsame (by simp)⟩

end Policy

end AccessPolicy
