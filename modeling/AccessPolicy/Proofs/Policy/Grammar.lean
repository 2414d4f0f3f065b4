import AccessPolicy.Proofs.Number.Integer
import AccessPolicy.Proofs.Policy.Reading

/-!
# The grammar of policy documents

Which documents that a service can send are read as policies, said without the reader: what stands
under `bindings`, what each binding consists of, and what stands under `version`. Reading a document
of the grammar grants the role of each binding to its members in turn; all other documents are
refused, wherever they break a rule.

* `Value.IsVoid`: the values that stand for nothing;
* `Policy.VersionOf`: the integers that versions stand for;
* `Policy.Entry.WellFormed`, `Policy.IsDocument`: the grammar;
* `Policy.decodeBinding_eq_ok_iff`, `Policy.decodeBindings_eq_ok_iff`: reading bindings;
* `Policy.exists_decode_iff_isDocument`: what is read is the grammar, and no condition is ever read
  over.
-/

namespace AccessPolicy

/-! ### Values that stand for nothing -/

namespace Value

/-- The values that stand for nothing: null, false, zero, and the empty text, list and map. -/
inductive IsVoid : Value → Prop where
  /-- Null. -/
  | null : IsVoid .null
  /-- False. -/
  | no : IsVoid (.bool false)
  /-- Zero as an integer. -/
  | zero : IsVoid (.int 0)
  /-- Zero as a floating-point number, of either sign. -/
  | floatZero (negative : Bool) (e : Int) : IsVoid (.float (.finite negative 0 e))
  /-- The empty text. -/
  | text : IsVoid (.text "")
  /-- The empty list. -/
  | list : IsVoid (.list [])
  /-- The empty map. -/
  | map : IsVoid (.map [])

/-- Of the values that a service sends, the falsy ones are those that stand for nothing. -/
theorem truthy_eq_false_iff {v : Value} (h : v.isJson = true) : v.truthy = false ↔ v.IsVoid := by
  constructor
  · intro hv
    cases v with
    | null => exact .null
    | bool b => cases b <;> [exact .no; simp [truthy] at hv]
    | int n =>
      obtain rfl : n = 0 := by simpa [truthy] using hv
      exact .zero
    | float x =>
      cases x with
      | finite s m e =>
        obtain rfl : m = 0 := by simpa [truthy, Binary64.isZero] using hv
        exact .floatZero s e
      | _ => simp [truthy, Binary64.isZero] at hv
    | text s =>
      obtain rfl : s = "" := by simpa [truthy] using hv
      exact .text
    | list items =>
      obtain rfl : items = [] := by simpa [truthy] using hv
      exact .list
    | map entries =>
      obtain rfl : entries = [] := by simpa [truthy] using hv
      exact .map
    | _ => simp [isJson] at h
  · intro hv
    cases hv <;> simp [truthy, Binary64.isZero]

/-- The items of a list. Other values have none. -/
def listed : Value → List Value
  | list items => items
  | _ => []

/-- Whether a value lists something: it is a list, or stands for nothing. -/
def IsListed (v : Value) : Prop := v.IsVoid ∨ ∃ items, v = .list items

theorem IsVoid.listed {v : Value} (h : v.IsVoid) : v.listed = [] := by
  cases h <;> rfl

theorem allJson_listed {v : Value} (h : v.isJson = true) : allJson v.listed = true := by
  cases v with
  | list items => exact h
  | _ => rfl

end Value

namespace Policy

/-- What is read as a list is what a value lists. -/
theorem listOf_eq_ok_iff {v : Value} (h : v.isJson = true) {otherwise : Rejection}
    {items : List Value} :
    listOf v otherwise = .ok items ↔ v.IsListed ∧ v.listed = items := by
  unfold listOf
  cases hv : v.truthy with
  | false =>
    have hvoid := (Value.truthy_eq_false_iff h).mp hv
    simp [Value.IsListed, hvoid, hvoid.listed]
  | true =>
    have hvoid : ¬ v.IsVoid := fun hv' => by
      rw [(Value.truthy_eq_false_iff h).mpr hv'] at hv
      exact absurd hv (by simp)
    rw [Value.opened_of_isJson h]
    cases v <;> simp [Value.IsListed, Value.listed, hvoid]

/-! ### Versions -/

/-- What versions stand for: null for itself, and all else that is a version for an integer. -/
inductive VersionOf : Value → Value → Prop where
  /-- There is no version. -/
  | null : VersionOf .null .null
  /-- False is zero and true is one. -/
  | bool (b : Bool) : VersionOf (.bool b) (.int b.toNat)
  /-- An integer stands for itself. -/
  | int (n : Int) : VersionOf (.int n) (.int n)
  /-- A finite number stands for its part before the point. -/
  | float {x : Binary64} {q : Rat} {n : Int} (hx : x.key = .number q) (hn : IntegerPart q n) :
    VersionOf (.float x) (.int n)
  /-- A text stands for what it is a numeral of, unless that has too many digits. -/
  | text {s : String} {n : Int} (hs : Numeral.Reads s.toList n) : VersionOf (.text s) (.int n)

/-- **Versions.** What is read as a version is what it stands for. -/
theorem decodeVersion_eq_ok_iff {v version : Value} (h : v.isJson = true) :
    decodeVersion v = .ok version ↔ VersionOf v version := by
  constructor
  · intro hv
    cases v with
    | null =>
      obtain rfl := Except.ok.inj hv
      exact .null
    | bool b =>
      obtain rfl := Except.ok.inj hv
      cases b
      · exact .bool false
      · exact .bool true
    | int n =>
      obtain rfl := Except.ok.inj hv
      exact .int n
    | float x =>
      cases x with
      | finite s m e =>
        obtain rfl := Except.ok.inj hv
        obtain ⟨q, hq, hn⟩ := Binary64.truncate_eq_some_iff.mp
          (show Binary64.truncate (.finite s m e) = some _ from rfl)
        exact .float hq hn
      | _ => simp [decodeVersion] at hv
    | text s =>
      rw [decodeVersion] at hv
      split at hv
      · next n hn =>
        obtain rfl := Except.ok.inj hv
        exact .text (Numeral.read_eq_ok_iff.mp hn)
      · simp at hv
    | list | map => simp [decodeVersion] at hv
    | _ => simp [Value.isJson] at h
  · intro hv
    cases hv with
    | null => rfl
    | bool b => cases b <;> rfl
    | int n => rfl
    | @float x q n hx hn =>
      have htruncate := Binary64.truncate_eq_some_iff.mpr ⟨q, hx, hn⟩
      cases x with
      | finite s m e => simp [decodeVersion, htruncate]
      | _ => simp [Binary64.truncate] at htruncate
    | text hs => simp [decodeVersion, Numeral.read_eq_ok_iff.mpr hs]

/-! ### Bindings -/

namespace Entry

/-- What a binding of a document has under a key. -/
def field (key : String) : Value → Value
  | .map fields => Value.field key fields
  | _ => .null

/-- What a binding of a document names as its role. -/
def role (v : Value) : Value := field "role" v

/-- What a binding of a document lists as its members. -/
def members (v : Value) : List Value := (field "members" v).listed

/-- The bindings that a document may list. -/
structure WellFormed (v : Value) : Prop where
  /-- It is a map without a condition, whatever would stand under that key. -/
  unconditional : ∃ fields, v = .map fields ∧ Value.field? "condition" fields = none
  /-- What it names as its role is something. -/
  named : ¬ (role v).IsVoid
  /-- Its members are a list, or left out. -/
  isListed : (field "members" v).IsListed
  /-- Each of its members is a member string. -/
  readable : ∀ m ∈ members v, ∃ s, m = .text s ∧ IsMemberString s
  /-- If it has members, its role is a text. -/
  textual : members v ≠ [] → ∃ s, role v = .text s

/-- The identities that a binding of a document lists. -/
def identities (v : Value) : List Identity :=
  (members v).filterMap fun m => (Identity.ofValue m).toOption

/-- The full name of the role that a binding of a document names. -/
def roleName (v : Value) : String :=
  match role v with
  | .text s => Role.fullName s
  | _ => ""

/-- Grants the role of a binding to its members, if it has some. -/
def grant (bs : Bindings) (v : Value) : Bindings :=
  if (members v).isEmpty then bs else bs.grant (Role.ofName (roleName v)) (identities v)

end Entry

/-- **Members.** What is read as members are lists of member strings. -/
theorem decodeMembers_eq_ok_iff {items : List Value} {ids : List Identity} :
    decodeMembers items = .ok ids ↔ (∀ m ∈ items, ∃ s, m = .text s ∧ IsMemberString s) ∧
      items.filterMap (fun m => (Identity.ofValue m).toOption) = ids := by
  induction items generalizing ids with
  | nil => simp [decodeMembers]
  | cons m rest ih =>
    rw [decodeMembers, List.forall_mem_cons]
    cases hm : Identity.ofValue m with
    | error e =>
      refine iff_of_false (by simp) ?_
      rintro ⟨⟨⟨s, hs, hmember⟩, -⟩, -⟩
      obtain ⟨i, hi⟩ := Identity.exists_parse_iff.mpr hmember
      simp [hs, Identity.ofValue, hi] at hm
    | ok i =>
      have hmember : ∃ s, m = .text s ∧ IsMemberString s := by
        cases m with
        | text s => exact ⟨s, rfl, Identity.exists_parse_iff.mp ⟨i, hm⟩⟩
        | _ => simp [Identity.ofValue] at hm
      have hcons : (m :: rest).filterMap (fun m => (Identity.ofValue m).toOption) =
          i :: rest.filterMap fun m => (Identity.ofValue m).toOption := by
        simp [hm, Except.toOption]
      rw [hcons]
      cases hrest : decodeMembers rest with
      | error e =>
        refine iff_of_false (by simp) ?_
        rintro ⟨⟨-, hall⟩, -⟩
        simp [ih.mpr ⟨hall, rfl⟩] at hrest
      | ok is =>
        obtain ⟨hall, rfl⟩ := ih.mp hrest
        simpa [hmember] using fun _ => hall

/-- Of the values that a service sends, only texts name a role that may be a key: that of their full
name. -/
theorem ofValue_of_isJson {v : Value} (hv : v.isJson = true) {r : Role} :
    Role.ofValue v = .ok r ∧ r.hashable = true ↔
      ∃ s, v = .text s ∧ r = Role.ofName (Role.fullName s) := by
  constructor
  · rintro ⟨h, hr⟩
    rcases Role.ofValue_cases h with ⟨s, rfl⟩ | ⟨hslash, hname⟩
    · exact ⟨s, rfl, (Except.ok.inj h).symm⟩
    · -- what contains a slash is no key unless it is a text
      rw [Value.opened_of_isJson hv] at hslash
      rw [Role.hashable, hname] at hr
      cases v with
      | text s => exact ⟨s, rfl, (Except.ok.inj h).symm⟩
      | _ => simp_all [Role.containsSlash, Value.hashable, Value.isJson]
  · rintro ⟨s, rfl, rfl⟩
    exact ⟨rfl, rfl⟩

/-- Of members that are member strings each one is read. -/
private theorem identities_eq_nil {v : Value}
    (h : ∀ m ∈ Entry.members v, ∃ s, m = .text s ∧ IsMemberString s) :
    Entry.identities v = [] ↔ Entry.members v = [] := by
  constructor
  · intro hnil
    by_contra hne
    obtain ⟨m, hm⟩ := List.exists_mem_of_ne_nil _ hne
    obtain ⟨s, rfl, hs⟩ := h m hm
    obtain ⟨i, hi⟩ := Identity.exists_parse_iff.mpr hs
    have hmem : i ∈ Entry.identities v :=
      List.mem_filterMap.mpr ⟨_, hm, by simp [Identity.ofValue, hi, Except.toOption]⟩
    simp [hnil] at hmem
  · intro hnil
    rw [Entry.identities, hnil, List.filterMap_nil]

/-- What it takes to read a binding, check by check. -/
private theorem decodeBinding_map_eq_ok_iff {fields : List (Value × Value)} {bs bs' : Bindings} :
    decodeBinding bs (.map fields) = .ok bs' ↔
      Value.field? "condition" fields = none ∧ (Value.field "role" fields).truthy = true ∧
      ∃ items ids,
        listOf (Value.field "members" fields) (.membersNotList (Value.field "role" fields)) =
          .ok items ∧
        decodeMembers items = .ok ids ∧
        (ids = [] ∧ bs = bs' ∨ ids ≠ [] ∧ ∃ r, (Role.ofValue (Value.field "role" fields) = .ok r ∧
          r.hashable = true) ∧ bs.grant r ids = bs') := by
  rw [decodeBinding, Value.opened_map]
  dsimp only
  cases Value.field? "condition" fields with
  | some condition => simp
  | none =>
    cases (Value.field "role" fields).truthy with
    | false => simp
    | true =>
      cases listOf (Value.field "members" fields)
          (.membersNotList (Value.field "role" fields)) with
      | error e => simp
      | ok items =>
        cases hids : decodeMembers items with
        | error e => simp [hids]
        | ok ids =>
          cases ids with
          | nil => simp [hids]
          | cons i is =>
            cases Role.ofValue (Value.field "role" fields) with
            | error e => simp [hids]
            | ok r => by_cases hr : r.hashable = true <;> simp [hids, hr]

/-- **One binding.** A binding is read exactly if it is well-formed, and then its role is granted to
its members. -/
theorem decodeBinding_eq_ok_iff {v : Value} (hv : v.isJson = true) {bs bs' : Bindings} :
    decodeBinding bs v = .ok bs' ↔ Entry.WellFormed v ∧ Entry.grant bs v = bs' := by
  by_cases hmap : ∃ fields, v = .map fields
  · obtain ⟨fields, rfl⟩ := hmap
    have hjson : ∀ key, (Value.field key fields).isJson = true :=
      Value.isJson_field (by simpa [Value.isJson] using hv)
    have hnamed : (Value.field "role" fields).truthy = true ↔
        ¬ (Value.field "role" fields).IsVoid := by
      rw [← Value.truthy_eq_false_iff (hjson "role"), Bool.not_eq_false]
    have hids : decodeMembers (Value.field "members" fields).listed =
        .ok (Entry.identities (.map fields)) ↔
          ∀ m ∈ Entry.members (.map fields), ∃ s, m = .text s ∧ IsMemberString s :=
      decodeMembers_eq_ok_iff.trans (and_iff_left rfl)
    have hname : ∀ s, Value.field "role" fields = .text s →
        Entry.roleName (.map fields) = Role.fullName s := fun s hs => by
      rw [Entry.roleName, show Entry.role (.map fields) = .text s from hs]
    simp only [decodeBinding_map_eq_ok_iff, listOf_eq_ok_iff (hjson "members"), hnamed,
      ofValue_of_isJson (hjson "role")]
    constructor
    · rintro ⟨hcondition, hvoid, _, ids, ⟨hlisted, rfl⟩, hdecode, hgrant⟩
      obtain rfl : Entry.identities (.map fields) = ids := (decodeMembers_eq_ok_iff.mp hdecode).2
      have hmembers := hids.mp hdecode
      rcases hgrant with ⟨hnil, rfl⟩ | ⟨hne, _, ⟨s, hs, rfl⟩, rfl⟩
      · have hempty := (identities_eq_nil hmembers).mp hnil
        refine ⟨⟨⟨fields, rfl, hcondition⟩, hvoid, hlisted, hmembers, fun hne => ?_⟩, ?_⟩
        · exact absurd hempty hne
        · simp [Entry.grant, hempty]
      · have hsome := mt (identities_eq_nil hmembers).mpr hne
        refine ⟨⟨⟨fields, rfl, hcondition⟩, hvoid, hlisted, hmembers, fun _ => ⟨s, hs⟩⟩, ?_⟩
        simp [Entry.grant, hsome, hname s hs]
    · rintro ⟨⟨⟨_, heq, hcondition⟩, hvoid, hlisted, hmembers, hrole⟩, rfl⟩
      obtain rfl := Value.map.inj heq
      refine ⟨hcondition, hvoid, _, _, ⟨hlisted, rfl⟩, hids.mpr hmembers, ?_⟩
      by_cases hempty : Entry.members (.map fields) = []
      · exact .inl ⟨(identities_eq_nil hmembers).mpr hempty, by simp [Entry.grant, hempty]⟩
      · obtain ⟨s, hs⟩ := hrole hempty
        refine .inr ⟨mt (identities_eq_nil hmembers).mp hempty, _, ⟨s, hs, rfl⟩, ?_⟩
        simp [Entry.grant, hempty, hname s hs]
  · refine iff_of_false ?_ fun ⟨hwell, _⟩ => hmap ?_
    · rw [decodeBinding, Value.opened_of_isJson hv]
      cases v with
      | map fields => exact absurd ⟨fields, rfl⟩ hmap
      | _ => simp
    · obtain ⟨fields, hfields, -⟩ := hwell.unconditional
      exact ⟨fields, hfields⟩

/-- **Bindings.** Bindings are read exactly if all of them are well-formed, and then each grants its
role in turn. -/
theorem decodeBindings_eq_ok_iff {items : List Value} (hitems : Value.allJson items = true)
    {acc bs : Bindings} : decodeBindings items acc = .ok bs ↔
      (∀ v ∈ items, Entry.WellFormed v) ∧ items.foldl Entry.grant acc = bs := by
  induction items generalizing acc with
  | nil => simp [decodeBindings]
  | cons v rest ih =>
    have hall := Value.allJson_iff.mp hitems
    have hv := hall v (by simp)
    have hrest := @ih (Value.allJson_iff.mpr fun w hw => hall w (by simp [hw]))
    rw [decodeBindings, List.forall_mem_cons, List.foldl_cons]
    cases hdec : decodeBinding acc v with
    | error e =>
      refine iff_of_false (by simp) ?_
      rintro ⟨⟨hwell, -⟩, -⟩
      simp [(decodeBinding_eq_ok_iff hv).mpr ⟨hwell, rfl⟩] at hdec
    | ok bs' =>
      obtain ⟨hwell, rfl⟩ := (decodeBinding_eq_ok_iff hv).mp hdec
      simpa [hwell] using hrest

/-! ### Documents -/

/-- The documents of policies. -/
structure IsDocument (fields : List (Value × Value)) : Prop where
  /-- The bindings are a list, or left out. -/
  isListed : (Value.field "bindings" fields).IsListed
  /-- Each of the bindings is well-formed. -/
  entries : ∀ v ∈ (Value.field "bindings" fields).listed, Entry.WellFormed v
  /-- The version stands for something. -/
  version : ∃ version, VersionOf (Value.field "version" fields) version

/-- **Reading a document.** A document is read as a policy exactly if it is one of the grammar. The
roles of its bindings are granted in turn, its version is what stands under that key, and its tag is
what is there. -/
theorem decode_eq_ok_iff {fields : List (Value × Value)} (hjson : Value.fieldsJson fields = true)
    {p : Policy} : decode (.map fields) = .ok p ↔
      (Value.field "bindings" fields).IsListed ∧
      (∀ v ∈ (Value.field "bindings" fields).listed, Entry.WellFormed v) ∧
      VersionOf (Value.field "version" fields) p.version ∧
      p = ⟨.roles, (Value.field "bindings" fields).listed.foldl Entry.grant [],
        Value.field "etag" fields, p.version⟩ := by
  have hbindings := Value.isJson_field hjson "bindings"
  rw [decode_map_eq_ok_iff, decodeVersion_eq_ok_iff (Value.isJson_field hjson _)]
  simp only [listOf_eq_ok_iff hbindings, and_assoc, exists_and_left, exists_eq_left',
    decodeBindings_eq_ok_iff (Value.allJson_listed hbindings)]
  obtain ⟨family, bs, etag, version⟩ := p
  simp only [Policy.mk.injEq, and_true]
  tauto

/-- **The grammar of documents.** A document that a service can send is read as a policy exactly if
it is one of the grammar. So no document is read that lists a binding with a condition, whatever
stands under that key, and whether the binding has members or not. -/
theorem exists_decode_iff_isDocument {fields : List (Value × Value)}
    (hjson : Value.fieldsJson fields = true) :
    ((∃ p, decode (.map fields) = .ok p) ↔ IsDocument fields) ∧
      ∀ items entry, Value.field "bindings" fields = .list items → .map entry ∈ items →
        Value.field? "condition" entry ≠ none → ¬ ∃ p, decode (.map fields) = .ok p := by
  have hiff : (∃ p, decode (.map fields) = .ok p) ↔ IsDocument fields := by
    constructor
    · rintro ⟨p, hp⟩
      obtain ⟨hlisted, hentries, hversion, -⟩ := (decode_eq_ok_iff hjson).mp hp
      exact ⟨hlisted, hentries, _, hversion⟩
    · rintro ⟨hlisted, hentries, version, hversion⟩
      exact ⟨⟨_, _, _, version⟩, (decode_eq_ok_iff hjson).mpr ⟨hlisted, hentries, hversion, rfl⟩⟩
  refine ⟨hiff, fun items entry hitems hentry hcondition hread => ?_⟩
  have hwell := (hiff.mp hread).entries (.map entry) (by rwa [hitems])
  obtain ⟨fields', heq, hnone⟩ := hwell.unconditional
  obtain rfl := Value.map.inj heq
  exact hcondition hnone

/-- A document with a role that is no text, which is read since no member needs it, and a version
that is a numeral; and the same document with a condition on the binding without members. -/
theorem isDocument_unused_role :
    let entry := [(.text "role", .int 5), (.text "members", .text "")]
    let fields (entry : List (Value × Value)) : List (Value × Value) :=
      [(.text "bindings", .list [.map entry,
        .ofFields [("role", .text "viewer"), ("members", .list [.text "group:a:b"])]]),
        (.text "version", .text " 1_0")]
    Value.fieldsJson (fields entry) = true ∧ IsDocument (fields entry) ∧
      ¬ ∃ p, decode (.map (fields ((.text "condition", .null) :: entry))) = .ok p := by
  intro entry fields
  have hread : decode (.map (fields entry)) = .ok ⟨.roles,
      [({ name := .text "roles/viewer" }, [⟨.group, .text "a:b"⟩])], .null, .int 10⟩ := rfl
  have hjson : Value.fieldsJson (fields ((.text "condition", .null) :: entry)) = true := rfl
  refine ⟨rfl, (exists_decode_iff_isDocument rfl).1.mp ⟨_, hread⟩, ?_⟩
  refine (exists_decode_iff_isDocument hjson).2 _ _ rfl (List.mem_cons_self ..) ?_
  simp [Value.field?]

end Policy

end AccessPolicy
