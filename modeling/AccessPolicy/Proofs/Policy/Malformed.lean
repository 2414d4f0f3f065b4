import AccessPolicy.Policy.File
import AccessPolicy.Proofs.Policy.Grammar

/-!
# Malformed documents

The document of a policy, from a service or from a file, is read as a policy, or it is malformed.
That it is malformed is expected, and reported as such. Two faults are not: a binding with members
may name its role by a value that is no name, and the version may be a value that has no integer.
Reading then stumbles on a value of the wrong kind, or on an infinity. Bindings are read in turn,
and the version after them, so that a fault that is met before hides these.

* `Role.IsName`, `Value.NoInteger`: the values that name a role, and those that have no integer;
* `Entry.Readable`, `Entry.Misnamed`: the bindings that are read, and those that reading stumbles
  on;
* `Policy.stumbles_iff`: the documents that reading stumbles on.
-/

namespace AccessPolicy

/-! ### Names of roles -/

/-- The values that name a role which may be a key: the texts, and the pairs of keys of which one is
a slash. -/
inductive Role.IsName : Value → Prop where
  /-- A text. -/
  | text (s : String) : IsName (.text s)
  /-- A pair with a slash in it. -/
  | pair {a b : Value} (ha : a.hashable = true) (hb : b.hashable = true)
    (hslash : a = .text "/" ∨ b = .text "/") : IsName (.pair a b)

theorem Role.exists_ofValue_iff {v : Value} :
    (∃ r, Role.ofValue v = .ok r ∧ r.hashable = true) ↔ Role.IsName v := by
  constructor
  · rintro ⟨r, h, hr⟩
    rcases Role.ofValue_cases h with ⟨s, rfl⟩ | ⟨hslash, hname⟩
    · exact .text s
    · rw [Role.hashable, hname] at hr
      cases v with
      | text s => exact .text s
      | pair a b =>
        simp only [Value.hashable, Bool.and_eq_true] at hr
        refine .pair hr.1 hr.2 ?_
        simpa [Value.opened, Role.containsSlash, Value.same_text_left] using hslash
      | _ => simp_all [Value.opened, Role.containsSlash, Value.hashable]
  · intro h
    cases h with
    | text s => exact ⟨_, rfl, rfl⟩
    | @pair a b ha hb hslash =>
      have hcontains : Role.containsSlash (.pair a b) = some true := by
        simpa [Role.containsSlash, Value.same_text_left] using hslash
      have hhashable : (Value.pair a b).hashable = true := by simp [Value.hashable, ha, hb]
      exact ⟨{ name := .pair a b }, by simp [Role.ofValue, Value.opened, hcontains], hhashable⟩

/-! ### Lists -/

/-- Whether a value lists items: as a list, or none as a value that is empty, zero or null. -/
def Value.Lists (v : Value) (items : List Value) : Prop :=
  if v.truthy then v.opened = .list items else items = []

theorem Value.Lists.unique {v : Value} {items items' : List Value} (h : v.Lists items)
    (h' : v.Lists items') : items = items' := by
  unfold Lists at h h'
  split at h
  · rw [if_pos ‹_›] at h'
    simpa [h] using h'
  · rw [if_neg ‹_›] at h'
    rw [h, h']

/-! ### Integers -/

/-- The values that have no integer, with what asking for it comes to. -/
inductive Value.NoInteger : Value → Failure → Prop where
  /-- An infinity. -/
  | infinity (negative : Bool) : NoInteger (.float (.infinity negative)) .infinite
  /-- A list. -/
  | list (items : List Value) : NoInteger (.list items) .wrongKind
  /-- A map. -/
  | map (entries : List (Value × Value)) : NoInteger (.map entries) .wrongKind
  /-- A date. -/
  | date (d : Date) : NoInteger (.date d) .wrongKind
  /-- A moment. -/
  | moment (t : Moment) : NoInteger (.moment t) .wrongKind
  /-- A set. -/
  | set (items : List Value) : NoInteger (.set items) .wrongKind
  /-- A pair. -/
  | pair (a b : Value) : NoInteger (.pair a b) .wrongKind
  /-- A list or map that holds itself. -/
  | knot (label : Nat) (content : Value) : NoInteger (.knot label content) .wrongKind
  /-- A list or map met again inside itself. -/
  | again (label : Nat) (isMap : Bool) : NoInteger (.again label isMap) .wrongKind

namespace Policy

/-- A field that should be a list is read as what it lists, or that it lists nothing is expected. -/
theorem listOf_cases (v : Value) (otherwise : Rejection) :
    (∃ items, v.Lists items ∧ listOf v otherwise = .ok items) ∨
      (∀ items, ¬ v.Lists items) ∧ ∃ e, listOf v otherwise = .error e ∧ e.isExpected = true := by
  unfold listOf Value.Lists
  cases v.truthy with
  | false => exact .inl ⟨[], rfl, rfl⟩
  | true =>
    simp only [Bool.not_true, Bool.false_eq_true, if_false, if_true]
    cases v.opened with
    | list items => exact .inl ⟨items, rfl, rfl⟩
    | _ => exact .inr ⟨by simp, _, rfl, rfl⟩

theorem listOf_of_lists {v : Value} {items : List Value} (h : v.Lists items)
    (otherwise : Rejection) : listOf v otherwise = .ok items := by
  rcases listOf_cases v otherwise with ⟨items', h', hlist⟩ | ⟨hnone, -⟩
  · rw [hlist, h.unique h']
  · exact absurd h (hnone items)

/-! ### Bindings -/

/-- A binding of a document that is read up to the question whether its role has a name: a map
without a condition, with a role that is something, and member strings. -/
structure Entry.Offers (v role : Value) (members : List Value) : Prop where
  /-- It is a map without a condition that has the role and lists the members. -/
  entry : ∃ fields, v.opened = .map fields ∧ Value.field? "condition" fields = none ∧
    Value.field "role" fields = role ∧ (Value.field "members" fields).Lists members
  /-- Its role is something. -/
  named : role.truthy = true
  /-- Its members are member strings. -/
  readable : ∀ m ∈ members, ∃ s, m = .text s ∧ IsMemberString s

/-- The bindings that are read: those whose role has a name, if they have members. -/
def Entry.Readable (v : Value) : Prop :=
  ∃ role members, Offers v role members ∧ (members ≠ [] → Role.IsName role)

/-- The bindings that reading stumbles on: they have members, and their role has no name. -/
def Entry.Misnamed (v : Value) : Prop :=
  ∃ role members, Offers v role members ∧ members ≠ [] ∧ ¬ Role.IsName role

private theorem isExpected_of_decodeMembers {items : List Value} {e : Failure}
    (h : decodeMembers items = .error e) : e.isExpected = true := by
  induction items with
  | nil => simp [decodeMembers] at h
  | cons v rest ih =>
    rw [decodeMembers] at h
    split at h
    · obtain rfl := Except.error.inj h
      rfl
    · split at h
      · next hrest => exact ih (hrest.trans h)
      · simp at h

/-- A truthy value that is no name is refused as of the wrong kind. -/
private theorem wrongKind_of_not_isName {v : Value} (htruthy : v.truthy = true)
    (h : ¬ Role.IsName v) :
    Role.ofValue v = .error .wrongKind ∨ ∃ r, Role.ofValue v = .ok r ∧ r.hashable = false := by
  cases hrole : Role.ofValue v with
  | ok r =>
    refine .inr ⟨r, rfl, Bool.eq_false_iff.mpr fun hr => h ?_⟩
    exact Role.exists_ofValue_iff.mp ⟨r, hrole, hr⟩
  | error e =>
    refine .inl (congrArg Except.error ?_)
    unfold Role.ofValue at hrole
    split at hrole
    · simp [Value.truthy] at htruthy
    · simp at hrole
    · split at hrole
      · simp at hrole
      · exact (Except.error.inj hrole).symm

namespace Entry

theorem Offers.unique {v role role' : Value} {members members' : List Value}
    (h : Offers v role members) (h' : Offers v role' members') :
    role = role' ∧ members = members' := by
  obtain ⟨fields, hopen, -, rfl, hlists⟩ := h.entry
  obtain ⟨fields', hopen', -, rfl, hlists'⟩ := h'.entry
  obtain rfl : fields = fields' := by simpa [hopen] using hopen'
  exact ⟨rfl, hlists.unique hlists'⟩

theorem Readable.not_misnamed {v : Value} (h : Readable v) : ¬ Misnamed v := by
  rintro ⟨role, members, hoffers, hne, hname⟩
  obtain ⟨role', members', hoffers', hnames⟩ := h
  obtain ⟨rfl, rfl⟩ := hoffers.unique hoffers'
  exact hname (hnames hne)

end Entry

/-- What reading a binding comes to. -/
private inductive BindingOutcome (v : Value) : Except Failure Bindings → Prop where
  /-- It is read. -/
  | read {bs : Bindings} (h : Entry.Readable v) : BindingOutcome v (.ok bs)
  /-- Reading stumbles on the role. -/
  | stumbled (h : Entry.Misnamed v) : BindingOutcome v (.error .wrongKind)
  /-- It is refused before that. -/
  | refused {e : Failure} (he : e.isExpected = true)
    (h : ∀ role members, ¬ Entry.Offers v role members) : BindingOutcome v (.error e)

/-- As many identities are read as there are members. -/
private theorem length_of_decodeMembers {items : List Value} {ids : List Identity}
    (h : decodeMembers items = .ok ids) : ids.length = items.length := by
  induction items generalizing ids with
  | nil =>
    obtain rfl := Except.ok.inj h
    rfl
  | cons v rest ih =>
    rw [decodeMembers] at h
    split at h
    · simp at h
    · split at h
      · simp at h
      · next is his =>
        obtain rfl := Except.ok.inj h
        simp [ih his]

/-- A binding with members is read exactly if its role has a name. -/
private theorem Entry.Offers.bindingOutcome {v role : Value} {members : List Value}
    (h : Offers v role members) (hne : members ≠ []) (acc : Bindings) (ids : List Identity) :
    BindingOutcome v (match Role.ofValue role with
      | .error e => .error e
      | .ok r => if r.hashable then .ok (acc.grant r ids) else .error .wrongKind) := by
  by_cases hname : Role.IsName role
  · obtain ⟨r, hrole, hr⟩ := Role.exists_ofValue_iff.mpr hname
    simp only [hrole, hr, if_true]
    exact .read ⟨role, members, h, fun _ => hname⟩
  · have hmisnamed : Entry.Misnamed v := ⟨role, members, h, hne, hname⟩
    rcases wrongKind_of_not_isName h.named hname with hrole | ⟨r, hrole, hr⟩
    · simp only [hrole]
      exact .stumbled hmisnamed
    · simp only [hrole, hr, Bool.false_eq_true, if_false]
      exact .stumbled hmisnamed

/-- **A binding** is read, or stumbled on, or refused as expected. -/
private theorem bindingOutcome (acc : Bindings) (v : Value) :
    BindingOutcome v (decodeBinding acc v) := by
  unfold decodeBinding
  cases hopen : v.opened with
  | map fields =>
    -- whatever role and members are offered, they stand under their keys
    have hentry : ∀ {role members}, Entry.Offers v role members →
        Value.field? "condition" fields = none ∧ Value.field "role" fields = role ∧
          (Value.field "members" fields).Lists members := by
      intro role members h
      obtain ⟨fields', hopen', hrest⟩ := h.entry
      obtain rfl : fields = fields' := by simpa [hopen] using hopen'
      exact hrest
    dsimp only
    cases hcondition : Value.field? "condition" fields with
    | some condition =>
      exact .refused rfl fun role members h => by simpa [hcondition] using (hentry h).1
    | none =>
      cases hnamed : (Value.field "role" fields).truthy with
      | false =>
        refine .refused rfl fun role members h => ?_
        obtain ⟨-, rfl, -⟩ := hentry h
        simp [h.named] at hnamed
      | true =>
        rcases listOf_cases (Value.field "members" fields)
          (.membersNotList (Value.field "role" fields)) with
          ⟨items, hlists, hlist⟩ | ⟨hnone, e, hlist, he⟩
        · simp only [hlist, Option.isSome_none, Bool.false_eq_true, if_false, Bool.not_true]
          cases hmembers : decodeMembers items with
          | error e =>
            refine .refused (isExpected_of_decodeMembers hmembers) fun role members h => ?_
            obtain ⟨-, -, hlists'⟩ := hentry h
            obtain rfl := hlists.unique hlists'
            simp [decodeMembers_eq_ok_iff.mpr ⟨h.readable, rfl⟩] at hmembers
          | ok ids =>
            have hoffers : Entry.Offers v (Value.field "role" fields) items :=
              ⟨⟨fields, hopen, hcondition, rfl, hlists⟩, hnamed,
                (decodeMembers_eq_ok_iff.mp hmembers).1⟩
            have hlength := length_of_decodeMembers hmembers
            cases ids with
            | nil =>
              have hnil : items = [] := List.length_eq_zero_iff.mp hlength.symm
              exact .read ⟨_, items, hoffers, fun hne => absurd hnil hne⟩
            | cons i is =>
              have hne : items ≠ [] := by
                rintro rfl
                simp at hlength
              exact hoffers.bindingOutcome hne acc (i :: is)
        · simp only [hlist, Option.isSome_none, Bool.false_eq_true, if_false, Bool.not_true]
          exact .refused he fun role members h => hnone members (hentry h).2.2
  | _ =>
    refine .refused rfl fun role members h => ?_
    obtain ⟨fields, hopen', -⟩ := h.entry
    simp [hopen] at hopen'

/-- The bindings that are read. -/
theorem exists_decodeBinding_iff_readable (acc : Bindings) {v : Value} :
    (∃ bs, decodeBinding acc v = .ok bs) ↔ Entry.Readable v := by
  have houtcome := bindingOutcome acc v
  generalize decodeBinding acc v = result at houtcome
  cases houtcome with
  | read h => exact iff_of_true ⟨_, rfl⟩ h
  | stumbled h => exact iff_of_false (by simp) fun hread => hread.not_misnamed h
  | refused _ h =>
    refine iff_of_false (by simp) ?_
    rintro ⟨role, members, hoffers, -⟩
    exact h role members hoffers

/-- The bindings that reading stumbles on. -/
theorem decodeBinding_stumbles_iff (acc : Bindings) {v : Value} {e : Failure} :
    (decodeBinding acc v = .error e ∧ e.isExpected = false) ↔
      Entry.Misnamed v ∧ e = .wrongKind := by
  have houtcome := bindingOutcome acc v
  generalize decodeBinding acc v = result at houtcome
  cases houtcome with
  | read h => exact iff_of_false (by simp) fun hmis => h.not_misnamed hmis.1
  | stumbled h =>
    constructor
    · rintro ⟨heq, -⟩
      exact ⟨h, (Except.error.inj heq).symm⟩
    · rintro ⟨-, rfl⟩
      exact ⟨rfl, rfl⟩
  | refused he h =>
    constructor
    · rintro ⟨heq, hunexpected⟩
      obtain rfl := Except.error.inj heq
      simp [he] at hunexpected
    · rintro ⟨⟨role, members, hoffers, -⟩, -⟩
      exact absurd hoffers (h role members)

/-- A list of bindings that reading stumbles on: the first that is not read is misnamed. -/
def Entry.Stumbling (items : List Value) : Prop :=
  ∃ before v after, items = before ++ v :: after ∧ (∀ u ∈ before, Readable u) ∧ Misnamed v

theorem Entry.stumbling_cons {v : Value} {rest : List Value} :
    Stumbling (v :: rest) ↔ Misnamed v ∨ Readable v ∧ Stumbling rest := by
  constructor
  · rintro ⟨before, u, after, heq, hbefore, hu⟩
    rcases List.cons_eq_append_iff.mp heq with ⟨rfl, hcons⟩ | ⟨before', rfl, hrest⟩
    · obtain ⟨rfl, rfl⟩ := List.cons.inj hcons
      exact .inl hu
    · rw [List.forall_mem_cons] at hbefore
      exact .inr ⟨hbefore.1, before', u, after, hrest, hbefore.2, hu⟩
  · rintro (hv | ⟨hv, before, u, after, rfl, hbefore, hu⟩)
    · exact ⟨[], v, rest, rfl, by simp, hv⟩
    · exact ⟨v :: before, u, after, rfl, List.forall_mem_cons.mpr ⟨hv, hbefore⟩, hu⟩

/-- Bindings are read if each of them is. -/
theorem exists_decodeBindings_iff_readable {items : List Value} (acc : Bindings) :
    (∃ bs, decodeBindings items acc = .ok bs) ↔ ∀ v ∈ items, Entry.Readable v := by
  induction items generalizing acc with
  | nil => simp [decodeBindings]
  | cons v rest ih =>
    rw [decodeBindings, List.forall_mem_cons, ← exists_decodeBinding_iff_readable acc]
    cases decodeBinding acc v with
    | error e => simp
    | ok bs => simpa using ih bs

/-- **Bindings** are stumbled on at the first one that is not read, if that is misnamed. -/
theorem decodeBindings_stumbles_iff {items : List Value} (acc : Bindings) {e : Failure} :
    (decodeBindings items acc = .error e ∧ e.isExpected = false) ↔
      Entry.Stumbling items ∧ e = .wrongKind := by
  induction items generalizing acc with
  | nil => simp [decodeBindings, Entry.Stumbling]
  | cons v rest ih =>
    rw [decodeBindings, Entry.stumbling_cons]
    have hread := exists_decodeBinding_iff_readable acc (v := v)
    have hstumbles := decodeBinding_stumbles_iff acc (v := v) (e := e)
    cases hv : decodeBinding acc v with
    | error e' =>
      have hunread : ¬ Entry.Readable v := by simpa [hv] using hread.not
      rw [hv] at hstumbles
      simpa [hunread] using hstumbles
    | ok bs =>
      have hreadable : Entry.Readable v := hread.mp ⟨bs, hv⟩
      simpa [hreadable, hreadable.not_misnamed] using ih bs

/-! ### Versions -/

/-- A version is stumbled on if it has no integer. -/
theorem decodeVersion_stumbles_iff {v : Value} {e : Failure} :
    (decodeVersion v = .error e ∧ e.isExpected = false) ↔ v.NoInteger e := by
  constructor
  · rintro ⟨h, he⟩
    cases v with
    | null | bool | int => simp [decodeVersion] at h
    | float x =>
      cases x with
      | infinity negative =>
        obtain rfl := Except.error.inj h
        exact .infinity negative
      | notANumber =>
        obtain rfl := Except.error.inj h
        simp [Failure.isExpected] at he
      | _ => simp [decodeVersion] at h
    | text s =>
      rw [decodeVersion] at h
      split at h
      · simp at h
      · obtain rfl := Except.error.inj h
        simp [Failure.isExpected] at he
    | bytes b =>
      rw [decodeVersion] at h
      split at h
      · simp at h
      · obtain rfl := Except.error.inj h
        simp [Failure.isExpected] at he
      · obtain rfl := Except.error.inj h
        simp [Failure.isExpected] at he
    | _ =>
      obtain rfl := Except.error.inj h
      constructor
  · intro h
    cases h <;> exact ⟨rfl, rfl⟩

/-! ### Documents -/

/-- What reading the fields of a document stumbles on: the role of a binding after bindings that are
read, or a version that has no integer after all bindings are read. -/
inductive Stumbles (fields : List (Value × Value)) : Failure → Prop where
  /-- The role of a binding. -/
  | role {items : List Value} (hitems : (Value.field "bindings" fields).Lists items)
    (hstumbling : Entry.Stumbling items) : Stumbles fields .wrongKind
  /-- The version. -/
  | version {items : List Value} {e : Failure}
    (hitems : (Value.field "bindings" fields).Lists items)
    (hreadable : ∀ v ∈ items, Entry.Readable v)
    (hversion : (Value.field "version" fields).NoInteger e) : Stumbles fields e

/-- What a document comes to whose bindings are listed: the builder at the end takes them as they
are. -/
private theorem decode_of_lists {fields : List (Value × Value)} {items : List Value}
    (h : (Value.field "bindings" fields).Lists items) :
    decode (.map fields) = match decodeBindings items [] with
      | .error e => .error e
      | .ok bs => match decodeVersion (Value.field "version" fields) with
        | .error e => .error e
        | .ok version => .ok ⟨.roles, bs, Value.field "etag" fields, version⟩ := by
  rw [decode, Value.opened_map]
  simp only [listOf_of_lists h]
  cases hbs : decodeBindings items [] with
  | error e => rfl
  | ok bs =>
    simp only [Builder.make_of_sound (decodeBindings_sound hbs Bindings.Sound.nil)]
    rfl

theorem Stumbles.decode_eq {fields : List (Value × Value)} {e : Failure} (h : Stumbles fields e) :
    decode (.map fields) = .error e ∧ e.isExpected = false := by
  cases h with
  | role hitems hstumbling =>
    obtain ⟨hbs, he⟩ := (decodeBindings_stumbles_iff []).mpr ⟨hstumbling, rfl⟩
    rw [decode_of_lists hitems, hbs]
    exact ⟨rfl, he⟩
  | version hitems hreadable hversion =>
    obtain ⟨bs, hbs⟩ := (exists_decodeBindings_iff_readable []).mpr hreadable
    obtain ⟨hfailed, he⟩ := decodeVersion_stumbles_iff.mpr hversion
    rw [decode_of_lists hitems, hbs]
    simp [hfailed, he]

theorem stumbles_of_decode {fields : List (Value × Value)} {e : Failure}
    (h : decode (.map fields) = .error e) (he : e.isExpected = false) : Stumbles fields e := by
  rcases listOf_cases (Value.field "bindings" fields) .bindingsNotList with
    ⟨items, hlists, -⟩ | ⟨-, e', hlist, he'⟩
  · rw [decode_of_lists hlists] at h
    split at h
    · next hbs =>
      obtain rfl := Except.error.inj h
      obtain ⟨hstumbling, rfl⟩ := (decodeBindings_stumbles_iff []).mp ⟨hbs, he⟩
      exact .role hlists hstumbling
    · next bs hbs =>
      have hreadable := (exists_decodeBindings_iff_readable []).mp ⟨bs, hbs⟩
      split at h
      · next hversion =>
        obtain rfl := Except.error.inj h
        exact .version hlists hreadable (decodeVersion_stumbles_iff.mp ⟨hversion, he⟩)
      · simp at h
  · rw [decode, Value.opened_map] at h
    simp only [hlist] at h
    obtain rfl := Except.error.inj h
    simp [he'] at he

/-- **Documents that reading stumbles on.** -/
theorem decode_stumbles_iff {fields : List (Value × Value)} {e : Failure} :
    (decode (.map fields) = .error e ∧ e.isExpected = false) ↔ Stumbles fields e :=
  ⟨fun h => stumbles_of_decode h.1 h.2, Stumbles.decode_eq⟩

/-- **What a malformed document comes to.** Reading a map as a policy, or a policy file that holds a
value, fails in a way that is not expected exactly if reading stumbles on a role or the version; and
then it fails as said there. So all other documents are read or refused as expected. -/
theorem stumbles_iff (fields : List (Value × Value)) (path : String) (document : Value)
    (e : Failure) :
    ((decode (.map fields) = .error e ∧ e.isExpected = false) ↔ Stumbles fields e) ∧
      ((ofYaml path (.ok document) = .error e ∧ e.isExpected = false) ↔
        ∃ fields', document.opened = .map fields' ∧ Stumbles fields' e) := by
  refine ⟨decode_stumbles_iff, ?_⟩
  by_cases hmap : ∃ fields', document.opened = .map fields'
  · obtain ⟨fields', hopen⟩ := hmap
    have hyaml : ofYaml path (.ok document) = decode (.map fields') := by simp only [ofYaml, hopen]
    rw [hyaml, decode_stumbles_iff]
    simp [hopen]
  · have hyaml : ofYaml path (.ok document) = .error (.rejected (.fileNotMap path)) := by
      simp only [ofYaml]
      split
      · next fields' hopen => exact absurd ⟨fields', hopen⟩ hmap
      · rfl
    rw [hyaml]
    constructor
    · rintro ⟨heq, he⟩
      obtain rfl := Except.error.inj heq
      simp [Failure.isExpected] at he
    · rintro ⟨fields', hopen, -⟩
      exact absurd ⟨fields', hopen⟩ hmap

/-- **A number for a role, a list for a version.** Two documents with a value of the wrong kind, and
one with an infinite version: reading them fails, and not as expected. -/
theorem decode_wrong_kinds :
    decode (.ofFields [("bindings", .list [.ofFields [("role", .int 5),
        ("members", .list [.text "allUsers"])]])]) = .error .wrongKind ∧
      decode (.ofFields [("version", .list [])]) = .error .wrongKind ∧
      decode (.ofFields [("version", .float (.infinity false))]) = .error .infinite ∧
      Failure.wrongKind.isExpected = false ∧ Failure.infinite.isExpected = false :=
  ⟨rfl, rfl, rfl, rfl, rfl⟩

end Policy

end AccessPolicy
