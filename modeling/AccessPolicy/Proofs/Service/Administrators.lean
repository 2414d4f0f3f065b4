import AccessPolicy.Proofs.Policy.CanonicalForm
import AccessPolicy.Proofs.Policy.Meaning
import AccessPolicy.Proofs.Service.Repeating

/-!
# The administrators of an organization

Who administers an organization can be read off its document, without reading the document as a
policy: the administrators under a role are the member strings that the bindings of the role list,
whichever way these spell the name of the role, and however many of them there are. To ask for the
administrators is to read the document once.

* `Policy.Entry.Names`: the roles that a binding names;
* `Policy.Administrators`: the administrators that bindings of a document list;
* `Handle.admins_of_reaches`: an organization has just the administrators that its document lists.
-/

namespace AccessPolicy

namespace Policy

open Handle (adminRoles)

/-! ### What a document lists -/

/-- The bindings that a document lists. -/
def entries (document : Value) : List Value := (Entry.field "bindings" document).listed

/-- Whether a binding of a document names a role, by its full name or without `roles/` before
it. -/
def Entry.Names (v : Value) (n : String) : Prop :=
  Entry.role v = .text n ∨ ∃ s, Entry.role v = .text s ∧ n = Role.collection ++ s

/-- Whether these are the administrators that bindings of a document list: under each administrative
role, member strings. -/
structure Administrators (items : List Value) (admins : List (Value × List String)) : Prop where
  /-- The roles are the administrative ones that a binding with members names. -/
  roles : ∀ key, key ∈ admins.map Prod.fst ↔
    ∃ n ∈ adminRoles, key = .text n ∧ ∃ v ∈ items, Entry.Names v n ∧ Entry.members v ≠ []
  /-- No role comes twice. -/
  differ : (admins.map Prod.fst).Nodup
  /-- The roles come in the order of the first bindings with members that name them. -/
  order : admins.map Prod.fst =
    (((items.filter Entry.hasMembers).map Entry.roleName).eraseDups.filter
      fun n => n ∈ adminRoles).map Value.text
  /-- Under each role the member strings are in strictly increasing order. -/
  ascending : ∀ e ∈ admins, Text.Ascending e.2
  /-- They are those that the bindings of the role list. -/
  members : ∀ n ms, (.text n, ms) ∈ admins → ∀ m,
    m ∈ ms ↔ ∃ v ∈ items, Entry.Names v n ∧ .text m ∈ Entry.members v

private theorem exists_bare {n : String} (h : n ∈ adminRoles) :
    ∃ s, n = Role.collection ++ s ∧ '/' ∉ s.toList := by
  simp only [adminRoles, List.mem_cons, List.not_mem_nil, or_false] at h
  rcases h with rfl | rfl | rfl
  · exact ⟨"resourcemanager.organizationAdmin", rfl, by decide⟩
  · exact ⟨"iam.securityAdmin", rfl, by decide⟩
  · exact ⟨"resourcemanager.projectIamAdmin", rfl, by decide⟩

/-- A binding names an administrative role exactly if this is the full name of its role. -/
private theorem names_iff {v : Value} {n : String} (hn : n ∈ adminRoles) :
    Entry.Names v n ↔ ∃ s, Entry.role v = .text s ∧ Role.fullName s = n := by
  obtain ⟨bare, rfl, hbare⟩ := exists_bare hn
  have hfull : Role.fullName (Role.collection ++ bare) = Role.collection ++ bare :=
    Role.fullName_of_mem (by simp [Role.collection])
  constructor
  · rintro (h | ⟨s, hs, heq⟩)
    · exact ⟨_, h, hfull⟩
    · obtain rfl : bare = s := by simpa using heq
      exact ⟨bare, hs, if_neg hbare⟩
  · rintro ⟨s, hs, heq⟩
    unfold Role.fullName at heq
    split at heq
    · exact .inl (heq ▸ hs)
    · exact .inr ⟨s, hs, heq.symm⟩

/-- The full name of the role of a binding is an administrative one exactly if it is named. -/
private theorem roleName_eq_iff {v : Value} {n : String} (hn : n ∈ adminRoles) :
    Entry.roleName v = n ↔ Entry.Names v n := by
  have hne : n ≠ "" := by
    rintro rfl
    simp [adminRoles] at hn
  rw [names_iff hn, Entry.roleName]
  split
  · next s hs => simp [hs]
  · next hno => simpa [hne.symm] using fun s hs => absurd hs (hno s)

/-- Of roles named by texts, the administrative ones are those with their names. -/
private theorem isAdminRole_ofName (n : String) :
    Handle.isAdminRole (Role.ofName n) = decide (n ∈ adminRoles) := by
  rw [Bool.eq_iff_iff]
  simp [Handle.isAdminRole, Role.ofName]

/-! ### What the policy holds -/

/-- Of the documents that a service can send, only maps are read as policies. -/
private theorem exists_map_of_decode {document : Value} {p : Policy}
    (hjson : document.isJson = true) (hread : decode document = .ok p) :
    ∃ fields, document = .map fields := by
  rw [decode, Value.opened_of_isJson hjson] at hread
  split at hread
  · simp at hread
  · exact ⟨_, rfl⟩
  · simp at hread

section

variable {fields : List (Value × Value)} {p : Policy}

/-- The order of administrative roles. -/
private theorem Means.adminsOf_order (h : Means fields p) :
    (Handle.adminsOf p).map Prod.fst =
      ((((entries (.map fields)).filter Entry.hasMembers).map Entry.roleName).eraseDups.filter
        fun n => n ∈ adminRoles).map Value.text := by
  have horder := congrArg (fun rs => (rs.filter Handle.isAdminRole).map Role.name) h.order
  simp only [List.filter_map, List.map_map] at horder
  rw [Handle.adminsOf, List.map_map]
  exact horder.trans (congrArg _ (List.filter_congr fun n _ => isAdminRole_ofName n))

/-- Roles that are kept apart have different names. -/
private theorem names_differ {bs : Bindings} (h : bs.Apart) :
    bs.Pairwise fun a b => a.1.name ≠ b.1.name := by
  refine h.roles_differ.imp_of_mem fun {a b} ha _ hab hname => ?_
  have hkey : a.1.key = b.1.key := by rw [Role.key, Role.key, hname]
  rw [(Role.same_iff_key (h.role_hashable a ha)).mpr hkey] at hab
  exact absurd hab (by simp)

/-- A role has the member strings of those that hold it. -/
private theorem mem_of_adminsOf (hjson : Value.fieldsJson fields = true)
    (hread : decode (.map fields) = .ok p) {e : Value × List String} (he : e ∈ Handle.adminsOf p) :
    Text.Ascending e.2 ∧ ∀ n, e.1 = .text n → n ∈ adminRoles ∧
      ∀ m, m ∈ e.2 ↔ ∃ i, p.bindings.Holds (Role.ofName n) i ∧ i.memberString = m := by
  have hsound := decode_sound hread
  have hcanonical := decode_canonical hjson hread
  obtain ⟨x, hx, rfl⟩ := List.mem_map.mp he
  obtain ⟨hx, hadmin⟩ := List.mem_filter.mp hx
  refine ⟨ascending_memberStrings (hsound.members hx) (hcanonical x hx).2, fun n hn => ⟨?_, ?_⟩⟩
  · have hname : x.1.name = (Role.ofName n).name := hn
    have hsame : Handle.isAdminRole (Role.ofName n) = true := by
      rw [← hadmin, Handle.isAdminRole, Handle.isAdminRole, hname]
    simpa [isAdminRole_ofName] using hsame
  · intro m
    have hholds := hsound.holds_ofName hx (fun i hi => ((hcanonical x hx).2 i hi).textual) hn
    simp only [mem_memberStrings, hholds]

end

/-- **The administrators of a policy** that was read from a document are those that the document
lists. -/
theorem administrators_of_decode {document : Value} {p : Policy} (hjson : document.isJson = true)
    (hread : decode document = .ok p) : Administrators (entries document) (Handle.adminsOf p) := by
  obtain ⟨fields, rfl⟩ := exists_map_of_decode hjson hread
  replace hjson : Value.fieldsJson fields = true := hjson
  have hmeans := (means_of_decode hjson hread).1
  obtain ⟨-, hwell, -⟩ := (decode_eq_ok_iff hjson).mp hread
  have horder := hmeans.adminsOf_order
  refine ⟨fun key => ?_, ?_, horder, fun e he => (mem_of_adminsOf hjson hread he).1, ?_⟩
  · -- the order lists the roles that have members, each under its full name
    rw [horder]
    simp only [List.mem_map, List.mem_filter, List.mem_eraseDups, decide_eq_true_eq,
      Entry.hasMembers, Bool.not_eq_true', List.isEmpty_eq_false_iff]
    constructor
    · rintro ⟨n, ⟨⟨v, ⟨hv, hne⟩, hname⟩, hn⟩, rfl⟩
      exact ⟨n, hn, rfl, v, hv, (roleName_eq_iff hn).mp hname, hne⟩
    · rintro ⟨n, hn, rfl, v, hv, hnames, hne⟩
      exact ⟨n, ⟨⟨v, ⟨hv, hne⟩, (roleName_eq_iff hn).mpr hnames⟩, hn⟩, rfl⟩
  · rw [Handle.adminsOf, List.map_map]
    exact List.pairwise_map.mpr (names_differ (decode_sound hread).apart |>.filter _)
  · -- members are what holds the role, and the bindings of the document say what that is
    intro n ms hms m
    obtain ⟨hn, hmem⟩ := (mem_of_adminsOf hjson hread hms).2 n rfl
    rw [hmem]
    simp only [hmeans.holds]
    constructor
    · rintro ⟨i, ⟨v, hv, ⟨s, hs, hname⟩, m', hm', hparse⟩, rfl⟩
      rw [Identity.memberString_of_parse hparse]
      exact ⟨v, hv, (names_iff hn).mpr ⟨s, hs, (Value.text.inj hname).symm⟩, hm'⟩
    · rintro ⟨v, hv, hnames, hm⟩
      obtain ⟨s, hs, hname⟩ := (names_iff hn).mp hnames
      obtain ⟨t, ht, hmember⟩ := (hwell v hv).readable _ hm
      obtain rfl := Value.text.inj ht
      obtain ⟨i, hi⟩ := Identity.exists_parse_iff.mpr hmember
      exact ⟨i, ⟨v, hv, ⟨s, hs, by rw [hname]; rfl⟩, m, hm, hi⟩, Identity.memberString_of_parse hi⟩

end Policy

/-! ### Asking for them -/

namespace Store

/-- A read leaves every document as it is. -/
theorem document?_afterRead {s : Store} {name other : String} {document : Value}
    (h : s.document? other = some document) :
    (s.afterRead name).document? other = some document := by
  have hdrop : ({ s with readFaults := s.readFaults.drop 1 } : Store).document? other =
      some document := h
  rw [afterRead, touch]
  split
  · exact hdrop
  · next hnone =>
    have hne : other ≠ name := by
      rintro rfl
      rw [hnone] at hdrop
      cases hdrop
    rwa [document?_setDocument_of_ne _ hne]

/-- What a read leaves if nothing befalls it. -/
theorem read_fst_of_takeFault {s : Store} (h : (takeFault s.readFaults).1 = none) (name : String) :
    (s.read name).1 = s.afterRead name := by
  unfold read
  cases hfaults : s.readFaults with
  | nil => simp [takeFault, afterRead, hfaults]
  | cons f rest =>
    rw [hfaults, takeFault] at h
    obtain rfl : f = none := h
    simp [takeFault, afterRead, hfaults]

end Store

namespace Handle

/-- **The administrators of an organization.** If the document of an organization reads as a policy,
and nothing befalls the read, the administrators are given, and they are those that the document
lists. There is one request, which reads the policy, and every document stays as it is. -/
theorem admins_of_reaches {h : Handle} (horg : h.resource.collection = .organizations)
    {w : World Store} {given : Option Credentials} (hr : h.Reaches w given)
    (hjson : (w.service.current h.resource.fullName).isJson = true) {p : Policy}
    (hread : Policy.decode (w.service.current h.resource.fullName) = .ok p) :
    ∃ admins, (h.admins w given).2 = .ok admins ∧
      Policy.Administrators (Policy.entries (w.service.current h.resource.fullName)) admins ∧
      (∃ c, (h.admins w given).1.requestsSince w =
        [⟨.organizations, h.resource.fullName, .getPolicy .null, some c⟩]) ∧
      ∀ name document, w.service.document? name = some document →
        (h.admins w given).1.service.document? name = some document := by
  obtain ⟨c, hc⟩ := hr.credentials
  obtain ⟨events, hnone, hrun⟩ := withCredentials_of_ok hc fun w c =>
    w.getPolicy c h.resource.fullName .null
  have hworld : (h.admins w given).1 = (h.policy w given .null).1 := by
    rw [admins, if_pos horg]
    split <;> simp_all
  have hgiven : (h.admins w given).2 = .ok (adminsOf p) := by
    have hpolicy := policy_of_reaches hr .null
    rw [hread] at hpolicy
    rw [admins, if_pos horg]
    split <;> simp_all
  refine ⟨adminsOf p, hgiven, Policy.administrators_of_decode hjson hread, ⟨c, ?_⟩, ?_⟩
  · rw [hworld, policy, hrun, World.getPolicy, Collection.owning_fullName, horg]
    simp [World.requestsSince, World.send, World.note, hnone, Edit.readLine, List.filterMap_cons,
      Event.request?]
  · intro name document hdocument
    have hservice : (h.admins w given).1.service = w.service.afterRead h.resource.fullName := by
      rw [hworld, policy, hrun, World.getPolicy, Collection.owning_fullName]
      exact Store.read_fst_of_takeFault hr.arrives _
    rw [hservice]
    exact Store.document?_afterRead hdocument

/-- An organization whose document lists an administrative role twice, once by its bare name, one of
them without members, and a role that is none. -/
theorem admins_of_reaches_two_spellings :
    let entry (role : String) (ms : List String) : Value :=
      .ofFields [("role", .text role), ("members", .list (ms.map .text))]
    let h : Handle := { resource := ⟨.organizations, .text "1"⟩ }
    let w : World Store := { ambient := some "me", service := { documents := [("organizations/1",
      .ofFields [("bindings", .list [entry "roles/viewer" ["user:eve"],
        entry "iam.securityAdmin" ["user:bob", "user:ann"],
        entry "roles/resourcemanager.organizationAdmin" [],
        entry "roles/iam.securityAdmin" ["group:ops", "user:bob"]])])] } }
    ∃ admins, (h.admins w none).2 = .ok admins ∧
      Policy.Administrators (Policy.entries (w.service.current h.resource.fullName)) admins ∧
      admins = [(.text "roles/iam.securityAdmin", ["group:ops", "user:ann", "user:bob"])] := by
  intro entry h w
  have hreach : h.Reaches w none := ⟨⟨"me", rfl⟩, rfl⟩
  have hread : Policy.decode (w.service.current h.resource.fullName) = .ok ⟨.roles,
      [({ name := .text "roles/viewer" }, [⟨.user, .text "eve"⟩]),
        ({ name := .text "roles/iam.securityAdmin" },
          [⟨.user, .text "bob"⟩, ⟨.user, .text "ann"⟩, ⟨.group, .text "ops"⟩])],
      .null, .null⟩ := by
    with_unfolding_all rfl
  obtain ⟨admins, hadmins, hall, -⟩ := admins_of_reaches (h := h) rfl hreach rfl hread
  refine ⟨admins, hadmins, hall, ?_⟩
  have hroles : admins.map Prod.fst = ["roles/iam.securityAdmin"].map Value.text :=
    hall.order.trans (congrArg (List.map Value.text) rfl)
  obtain ⟨⟨key, ms⟩, rfl⟩ : ∃ e, admins = [e] :=
    List.length_eq_one_iff.mp (by simpa using congrArg List.length hroles)
  obtain rfl : key = .text "roles/iam.securityAdmin" := by simpa using hroles
  have hmembers : ∀ m, m ∈ ms ↔ m ∈ ["group:ops", "user:ann", "user:bob"] := by
    have hitems : Policy.entries (w.service.current h.resource.fullName) =
        [entry "roles/viewer" ["user:eve"], entry "iam.securityAdmin" ["user:bob", "user:ann"],
          entry "roles/resourcemanager.organizationAdmin" [],
          entry "roles/iam.securityAdmin" ["group:ops", "user:bob"]] := rfl
    have hrole : ∀ role ms, Policy.Entry.role (entry role ms) = .text role := fun _ _ => rfl
    have hlisted : ∀ role ms, Policy.Entry.members (entry role ms) = ms.map .text :=
      fun _ _ => rfl
    have hbare : "roles/iam.securityAdmin" = Role.collection ++ "iam.securityAdmin" := rfl
    have hother : "roles/iam.securityAdmin" ≠ Role.collection ++ "roles/viewer" := by
      decide
    intro m
    rw [hall.members "roles/iam.securityAdmin" ms (by simp), hitems]
    simp [Policy.Entry.Names, hrole, hlisted, ← hbare, hother]
    grind
  -- only one list in increasing order has just these members
  have hsorted : Text.Ascending ["group:ops", "user:ann", "user:bob"] := by
    unfold Text.Ascending
    decide
  rw [Text.eq_of_ascending id (by simpa using hall.ascending _ List.mem_cons_self)
    (by simpa using hsorted) hmembers]

end Handle

end AccessPolicy
