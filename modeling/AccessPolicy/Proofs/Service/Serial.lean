import AccessPolicy.Proofs.Service.Interleaving

/-!
# Interleaved amendments are serial

However the requests of the clients are interleaved, the document is at all times what the
amendments of those clients whose writes were accepted make of it, one after another, in the order
in which the writes were accepted. No amendment is lost and none is made twice. Clients that find
nothing to write fit into the order where they read, so that each client is given the policy that
its amendment makes at its turn.

The invariant (`Interleaving.Inv`) has two parts: the books of who was given what (`Books`), and the
writes that are due (`Interleaving.Inv.due`). A write that is due carries a tag that was in use when
the client read; if the document still has that tag, the fields to be written are what the client's
amendment makes of the document. Since tags do not come back, a write that was overtaken stays
refused.

* `Interleaving.inv_step`, `Interleaving.inv_run`: the invariant holds at all times;
* `Interleaving.serializable`: what it says of the document and of the policies given.
-/

namespace AccessPolicy

variable {σ ι : Type}

/-! ### Amendments in turn -/

/-- The policy that the amendments of some clients make, one after another. -/
def served (clients : ι → Client) (l : List ι) (p : Policy) : Policy :=
  l.foldl (fun p i => (clients i).amendment.apply p) p

theorem served_append_singleton (clients : ι → Client) (l : List ι) (i : ι) (p : Policy) :
    served clients (l ++ [i]) p = (clients i).amendment.apply (served clients l p) := by
  simp [served]

theorem served_sound (clients : ι → Client) {p : Policy} (hp : p.bindings.Sound) (l : List ι) :
    (served clients l p).bindings.Sound := by
  unfold served
  induction l generalizing p with
  | nil => exact hp
  | cons i l ih => exact ih ((clients i).amendment.apply_sound hp)

/-- No amendment fails in turn. -/
theorem replay_eq (clients : ι → Client) {p : Policy} (hp : p.bindings.Sound) (l : List ι) :
    replay clients l p = .ok (served clients l p) := by
  unfold replay served
  induction l generalizing p with
  | nil => rfl
  | cons i l ih =>
    rw [List.foldlM_cons, (clients i).amendment.changed_eq hp]
    exact ih ((clients i).amendment.apply_sound hp)

/-! ### The books -/

/-- Who was given what: each client once, in the order of the policies given; and those whose writes
were accepted, which alone make a difference. -/
structure Books (clients : ι → Client) (p₀ : Policy) (phase : ι → Edit.Phase)
    (accepted done : List ι) : Prop where
  /-- No client is done twice. -/
  nodup : done.Nodup
  /-- The clients whose writes were accepted are done in the same order. -/
  sublist : accepted.Sublist done
  /-- The clients that are done are those that were given a policy. -/
  mem_done : ∀ i, i ∈ done ↔ ∃ p, phase i = .finished (.ok p)
  /-- Each was given the policy that its amendment makes at its turn. -/
  given : ∀ l i r, done = l ++ i :: r → ∃ p, phase i = .finished (.ok p) ∧
    p.bindings.Sound ∧ p.bindings.same (served clients (l ++ [i]) p₀).bindings = true
  /-- The amendments of the others make no difference. -/
  accepted_same :
    (served clients accepted p₀).bindings.same (served clients done p₀).bindings = true

namespace Books

variable [DecidableEq ι] {clients : ι → Client} {p₀ : Policy} {phase : ι → Edit.Phase}
  {accepted done : List ι}

/-- A client that goes on without being given a policy. -/
theorem move (h : Books clients p₀ phase accepted done) {i : ι} {q : Edit.Phase}
    (hi : ∀ p, phase i ≠ .finished (.ok p)) (hq : ∀ p, q ≠ .finished (.ok p)) :
    Books clients p₀ (Function.update phase i q) accepted done where
  nodup := h.nodup
  sublist := h.sublist
  mem_done j := by
    by_cases hj : j = i
    · subst hj
      simp [h.mem_done, hi, hq]
    · simp [h.mem_done, hj]
  given l j r hdone := by
    obtain ⟨p, hp, hsame⟩ := h.given l j r hdone
    have hj : j ≠ i := by
      rintro rfl
      exact hi p hp
    exact ⟨p, by simpa [hj] using hp, hsame⟩
  accepted_same := h.accepted_same

/-- A client that is given the policy that its amendment makes. -/
theorem finish (h : Books clients p₀ phase accepted done) {i : ι} {p : Policy}
    (hi : ∀ p, phase i ≠ .finished (.ok p)) (hp : p.bindings.Sound)
    (hsame : p.bindings.same (served clients (done ++ [i]) p₀).bindings = true)
    {accepted' : List ι} (hsublist : accepted'.Sublist (done ++ [i]))
    (haccepted : (served clients accepted' p₀).bindings.same
      (served clients (done ++ [i]) p₀).bindings = true) :
    Books clients p₀ (Function.update phase i (.finished (.ok p))) accepted' (done ++ [i]) := by
  have hnew : i ∉ done := fun hmem => by
    obtain ⟨q, hq⟩ := (h.mem_done i).mp hmem
    exact hi q hq
  refine ⟨?_, hsublist, fun j => ?_, fun l j r hdone => ?_, haccepted⟩
  · exact List.nodup_append.mpr ⟨h.nodup, List.nodup_singleton i, by
      rintro a ha b hb rfl
      exact hnew (List.mem_singleton.mp hb ▸ ha)⟩
  · by_cases hj : j = i
    · simp [hj]
    · simp [h.mem_done, hj]
  · -- the last turn is the new one, and all others were there before
    rcases List.eq_nil_or_concat r with rfl | ⟨r', x, rfl⟩
    · obtain ⟨rfl, hij⟩ := List.append_inj' hdone rfl
      obtain rfl : i = j := by simpa using hij
      exact ⟨p, by simp, hp, hsame⟩
    · rw [List.concat_eq_append, ← List.cons_append, ← List.append_assoc] at hdone
      obtain ⟨hdone', -⟩ := List.append_inj' hdone rfl
      obtain ⟨q, hq, hgiven⟩ := h.given l j r' hdone'
      have hj : j ≠ i := by
        rintro rfl
        exact hi q hq
      exact ⟨q, by simpa [hj] using hq, hgiven⟩

end Books

/-! ### The invariant -/

namespace Interleaving

variable [Service σ] {name : String}

/-- A write that is due: it carries a tag in use. If the document still has that tag, what is to be
written is what the amendment makes of the document. -/
def Due (guard : TagGuard σ name) (a : Amendment) (s : σ) (fields : List (Value × Value)) : Prop :=
  ∃ t, guard.Used s t ∧ Value.field? "etag" fields = some (.text t) ∧
    (Value.field "etag" (guard.fields s) = .text t →
      ∃ p, Policy.decode (.map (guard.fields s)) = .ok p ∧ Edit.fieldsOf (a.apply p) = .ok fields)

/-- What holds between any two requests. -/
structure Inv (guard : TagGuard σ name) (clients : ι → Client) (p₀ : Policy)
    (s : Interleaving σ ι) : Prop where
  /-- The laws apply to the service. -/
  valid : guard.Valid s.world.service
  /-- The document is one that a service can send. -/
  json : Value.fieldsJson (guard.fields s.world.service) = true
  /-- The document has a text as its tag. -/
  tag : ∃ t, Value.field "etag" (guard.fields s.world.service) = .text t
  /-- The document is what the clients made of it that are done. -/
  document : ∃ p, Policy.decode (.map (guard.fields s.world.service)) = .ok p ∧
    p.bindings.same (served clients s.done p₀).bindings = true
  /-- Writes that are due are refused or fit the document. -/
  due : ∀ i a fields, s.phase i = .writing a fields →
    Due guard (clients i).amendment s.world.service fields
  /-- The books are in order. -/
  books : Books clients p₀ s.phase s.accepted s.done

variable {guard : TagGuard σ name} {clients : ι → Client} {p₀ : Policy}

/-- A write that is due stays so while the document stays. -/
theorem Due.of_fields_eq {a : Amendment} {s s' : σ} {fields : List (Value × Value)}
    (h : Due guard a s fields) (hfields : guard.fields s' = guard.fields s)
    (hused : ∀ t, guard.Used s t → guard.Used s' t) : Due guard a s' fields := by
  obtain ⟨t, ht, hetag, hfit⟩ := h
  exact ⟨t, hused t ht, hetag, by rwa [hfields]⟩

/-- A write that is due is overtaken when the document gets a tag never used before. -/
theorem Due.of_new_tag {a : Amendment} {s s' : σ} {fields : List (Value × Value)}
    (h : Due guard a s fields) (hused : ∀ t, guard.Used s t → guard.Used s' t) {t' : String}
    (hnew : ¬ guard.Used s t') (htag : Value.field "etag" (guard.fields s') = .text t') :
    Due guard a s' fields := by
  obtain ⟨t, ht, hetag, -⟩ := h
  refine ⟨t, hused t ht, hetag, fun heq => ?_⟩
  obtain rfl : t' = t := by simpa using htag.symm.trans heq
  exact absurd ht hnew

/-! ### Serial order -/

/-- The document and the policies given are those of amendments made one after another. -/
structure Serialized (guard : TagGuard σ name) (clients : ι → Client) (p₀ : Policy)
    (s : Interleaving σ ι) : Prop where
  /-- The document has the bindings that the clients whose writes were accepted make, in turn. -/
  document : ∃ p q, Policy.decode (.map (guard.fields s.world.service)) = .ok p ∧
    replay clients s.accepted p₀ = .ok q ∧ p.bindings.same q.bindings = true
  /-- No client's write was accepted twice. -/
  accepted_nodup : s.accepted.Nodup
  /-- Clients whose writes were accepted were given a policy, in the same order. -/
  accepted_done : s.accepted.Sublist s.done
  /-- Clients were given a policy once each. -/
  done_nodup : s.done.Nodup
  /-- All other clients are on their way, or failed. -/
  mem_done : ∀ i, i ∈ s.done ↔ ∃ p, s.phase i = .finished (.ok p)
  /-- Each client was given the bindings that it and those before it make, in turn. -/
  given : ∀ l i r, s.done = l ++ i :: r → ∃ p q, s.phase i = .finished (.ok p) ∧
    replay clients (l ++ [i]) p₀ = .ok q ∧ p.bindings.same q.bindings = true

theorem Inv.serialized (hp₀ : p₀.bindings.Sound) {s : Interleaving σ ι}
    (h : Inv guard clients p₀ s) : Serialized guard clients p₀ s where
  document := by
    obtain ⟨p, hread, hsame⟩ := h.document
    have haccepted_sound := served_sound clients hp₀ s.accepted
    have hdone_sound := served_sound clients hp₀ s.done
    refine ⟨p, _, hread, replay_eq clients hp₀ s.accepted, ?_⟩
    exact Bindings.same_trans (Policy.decode_sound hread) hdone_sound haccepted_sound hsame
      ((Bindings.same_comm haccepted_sound hdone_sound).mp h.books.accepted_same)
  accepted_nodup := h.books.sublist.nodup h.books.nodup
  accepted_done := h.books.sublist
  done_nodup := h.books.nodup
  mem_done := h.books.mem_done
  given l i r hdone := by
    obtain ⟨p, hp, -, hsame⟩ := h.books.given l i r hdone
    exact ⟨p, _, hp, replay_eq clients hp₀ (l ++ [i]), hsame⟩

theorem inv_start {w : World σ} (hvalid : guard.Valid w.service)
    (hjson : Value.fieldsJson (guard.fields w.service) = true)
    (htag : ∃ t, Value.field "etag" (guard.fields w.service) = .text t)
    (hread : Policy.decode (.map (guard.fields w.service)) = .ok p₀) :
    Inv guard clients p₀ (start w) where
  valid := hvalid
  json := hjson
  tag := htag
  document := ⟨p₀, hread, Bindings.same_self (Policy.decode_sound hread)⟩
  due i a fields h := by simp [start] at h
  books :=
    { nodup := List.nodup_nil
      sublist := List.Sublist.refl _
      mem_done := by simp [start]
      given := by simp [start]
      accepted_same := Bindings.same_self (Policy.decode_sound hread) }

/-! ### Requests keep the invariant -/

variable [DecidableEq ι]

/-- A request that leaves the document. -/
private theorem Inv.move {s : Interleaving σ ι} (h : Inv guard clients p₀ s) {i : ι} {w : World σ}
    {q : Edit.Phase} (hvalid : guard.Valid w.service)
    (hfields : guard.fields w.service = guard.fields s.world.service)
    (hused : ∀ t, guard.Used s.world.service t → guard.Used w.service t)
    (hi : ∀ p, s.phase i ≠ .finished (.ok p)) (hq : ∀ p, q ≠ .finished (.ok p))
    (hdue : ∀ a fields, q = .writing a fields →
      Due guard (clients i).amendment s.world.service fields) :
    Inv guard clients p₀ ⟨w, Function.update s.phase i q, s.accepted, s.done⟩ where
  valid := hvalid
  json := by rw [hfields]; exact h.json
  tag := by rw [hfields]; exact h.tag
  document := by rw [hfields]; exact h.document
  due j a fields hj := by
    refine Due.of_fields_eq ?_ hfields hused
    by_cases hji : j = i
    · subst hji
      exact hdue a fields (by simpa using hj)
    · exact h.due j a fields (by simpa [hji] using hj)
  books := h.books.move hi hq

/-- A read that finds nothing to write. -/
private theorem Inv.unchanged {s : Interleaving σ ι} (h : Inv guard clients p₀ s)
    (hp₀ : p₀.bindings.Sound) {i : ι} {w : World σ} {p : Policy}
    (hvalid : guard.Valid w.service)
    (hfields : guard.fields w.service = guard.fields s.world.service)
    (hused : ∀ t, guard.Used s.world.service t → guard.Used w.service t)
    (hi : ∀ p, s.phase i ≠ .finished (.ok p))
    (hread : Policy.decode (.map (guard.fields s.world.service)) = .ok p)
    (hsame : ((clients i).amendment.apply p).same p = true) :
    Inv guard clients p₀ ⟨w, Function.update s.phase i (.finished (.ok p)), s.accepted,
      s.done ++ [i]⟩ := by
  obtain ⟨p', hread', hdone⟩ := h.document
  obtain rfl : p = p' := Except.ok.inj (hread.symm.trans hread')
  have hp := Policy.decode_sound hread
  have hdone_sound := served_sound clients hp₀ s.done
  have hbindings : ((clients i).amendment.apply p).bindings.same p.bindings = true := by
    simp only [Policy.same, Bool.and_eq_true] at hsame
    exact hsame.1.1.2
  have hturn : p.bindings.same (served clients (s.done ++ [i]) p₀).bindings = true := by
    rw [served_append_singleton]
    exact Bindings.same_trans hp ((clients i).amendment.apply_sound hp)
      ((clients i).amendment.apply_sound hdone_sound)
      ((Bindings.same_comm ((clients i).amendment.apply_sound hp) hp).mp hbindings)
      ((clients i).amendment.apply_same hp hdone_sound hdone)
  have hturn_sound := served_sound clients hp₀ (s.done ++ [i])
  -- the turn makes no difference, so those that do are the same as before
  have haccepted : (served clients s.accepted p₀).bindings.same
      (served clients (s.done ++ [i]) p₀).bindings = true :=
    Bindings.same_trans (served_sound clients hp₀ s.accepted) hdone_sound hturn_sound
      h.books.accepted_same
      (Bindings.same_trans hdone_sound hp hturn_sound
        ((Bindings.same_comm hp hdone_sound).mp hdone) hturn)
  refine ⟨hvalid, by rw [hfields]; exact h.json, by rw [hfields]; exact h.tag,
    ⟨p, by rw [hfields]; exact hread, hturn⟩, fun j a fields hj => ?_,
    h.books.finish hi hp hturn (h.books.sublist.trans (List.sublist_append_left ..)) haccepted⟩
  have hji : j ≠ i := by
    rintro rfl
    simp at hj
  exact (h.due j a fields (by simpa [hji] using hj)).of_fields_eq hfields hused

/-- A write that is accepted. -/
private theorem Inv.stored {s : Interleaving σ ι} (h : Inv guard clients p₀ s)
    (hp₀ : p₀.bindings.Sound) {i : ι} {w : World σ} {fields : List (Value × Value)} {t : String}
    (hvalid : guard.Valid w.service)
    (hused : ∀ t, guard.Used s.world.service t → guard.Used w.service t)
    (hi : ∀ p, s.phase i ≠ .finished (.ok p))
    (hdue : Due guard (clients i).amendment s.world.service fields)
    (hetag : Store.carriesOther (Value.field "etag" (guard.fields s.world.service)) fields = false)
    (hnew : ¬ guard.Used s.world.service t)
    (hfields : guard.fields w.service = Value.putField "etag" (.text t) fields) :
    ∃ p, Policy.decode (.map (Value.putField "etag" (.text t) fields)) = .ok p ∧
      Inv guard clients p₀ ⟨w, Function.update s.phase i (.finished (.ok p)), s.accepted ++ [i],
        s.done ++ [i]⟩ := by
  -- the write carries the tag of the document, so it was made for this very document
  obtain ⟨u, -, hu, hfit⟩ := hdue
  obtain ⟨p, hread, hwrite⟩ := hfit (Store.eq_text_of_carriesOther hu hetag)
  obtain ⟨p', hread', hdone⟩ := h.document
  obtain rfl : p = p' := Except.ok.inj (hread.symm.trans hread')
  have hsent := Policy.sent_of_decode h.json hread
  have hupdated := (clients i).amendment.apply_sent hsent
  obtain ⟨bs, hdecode, hsame⟩ := hupdated.exists_decode_stored hwrite (.text t)
  have hbs : bs.Sound := Policy.decode_sound hdecode
  have hdone_sound := served_sound clients hp₀ s.done
  have hturn : bs.same (served clients (s.done ++ [i]) p₀).bindings = true := by
    rw [served_append_singleton]
    exact Bindings.same_trans hbs hupdated.sound ((clients i).amendment.apply_sound hdone_sound)
      hsame ((clients i).amendment.apply_same hsent.sound hdone_sound hdone)
  have haccepted : (served clients (s.accepted ++ [i]) p₀).bindings.same
      (served clients (s.done ++ [i]) p₀).bindings = true := by
    rw [served_append_singleton, served_append_singleton]
    exact (clients i).amendment.apply_same (served_sound clients hp₀ s.accepted) hdone_sound
      h.books.accepted_same
  have hjson : Value.fieldsJson (Value.putField "etag" (.text t) fields) = true := by
    obtain ⟨u', hu'⟩ := h.tag
    have hold : ((clients i).amendment.apply p).etag.isJson = true := by
      have hetag' : ((clients i).amendment.apply p).etag = .text u' :=
        (Policy.decode_map_eq_ok_iff.mp hread).2.2.1.trans hu'
      rw [hetag']
      rfl
    exact Value.fieldsJson_putField (hupdated.fieldsJson hold hwrite) _ rfl
  have htag : Value.field "etag" (guard.fields w.service) = .text t := by
    rw [hfields, Value.field_putField_self]
  refine ⟨_, hdecode, hvalid, by rw [hfields]; exact hjson, ⟨t, htag⟩,
    ⟨_, by rw [hfields]; exact hdecode, hturn⟩, fun j a fs hj => ?_,
    h.books.finish hi hbs hturn (h.books.sublist.append (List.Sublist.refl [i])) haccepted⟩
  have hji : j ≠ i := by
    rintro rfl
    simp at hj
  exact (h.due j a fs (by simpa [hji] using hj)).of_new_tag hused hnew htag

private theorem inv_step_reading (hp₀ : p₀.bindings.Sound) {s : Interleaving σ ι}
    (h : Inv guard clients p₀ s) {i : ι} {a : Nat} (hphase : s.phase i = .reading a) :
    Inv guard clients p₀ (step name clients s i) := by
  have hi : ∀ p, s.phase i ≠ .finished (.ok p) := by simp [hphase]
  obtain ⟨hservice, hreceived⟩ := ((clients i).call name).step_of_action s.world (.reading a) rfl
  obtain ⟨hvalid, hfields, hused, hreply⟩ := guard.read h.valid
    (show Request.resource ⟨(clients i).collection, name, .getPolicy .null,
      (clients i).credentials⟩ = name from rfl) rfl
  unfold step
  dsimp only
  rw [hphase]
  generalize ((clients i).call name).step s.world (.reading a) = next at hservice hreceived ⊢
  obtain ⟨w, q⟩ := next
  replace hservice : w.service = _ := hservice
  simp only [Client.call] at hservice hreceived
  rw [← hservice] at hvalid hfields hused
  have hdocument : ∀ document, (Service.answer s.world.service ⟨(clients i).collection, name,
      .getPolicy .null, (clients i).credentials⟩).2 = .ok document →
      document = .map (guard.fields s.world.service) := by
    intro document hok
    rcases hreply with hr | ⟨e, hr⟩
    · exact Except.ok.inj (hok.symm.trans hr)
    · simp [hr] at hok
  generalize (Service.answer s.world.service ⟨(clients i).collection, name, .getPolicy .null,
    (clients i).credentials⟩).2 = reply at hreceived hdocument
  cases hreceived with
  | readAgain he ha => exact h.move hvalid hfields hused hi (by simp) (by simp)
  | readFailed e => exact h.move hvalid hfields hused hi (by simp) (by simp)
  | unchanged hread hchanged hsame =>
    obtain rfl := hdocument _ rfl
    obtain rfl := Except.ok.inj
      (((clients i).amendment.changed_eq (Policy.decode_sound hread)).symm.trans hchanged)
    exact h.unchanged hp₀ hvalid hfields hused hi hread hsame
  | @toWrite _ _ current updated fields hread hchanged hdiffers hfields' =>
    obtain rfl := hdocument _ rfl
    obtain rfl := Except.ok.inj
      (((clients i).amendment.changed_eq (Policy.decode_sound hread)).symm.trans hchanged)
    refine h.move hvalid hfields hused hi (by simp) fun b fs hq => ?_
    obtain ⟨-, rfl⟩ : a = b ∧ fields = fs := by simpa using hq
    obtain ⟨t, ht⟩ := h.tag
    have hetag : ((clients i).amendment.apply current).etag = .text t :=
      (Policy.decode_map_eq_ok_iff.mp hread).2.2.1.trans ht
    -- the write that is due carries the tag that was read, which is in use from then on
    exact ⟨t, guard.used_tag h.valid ht,
      (Edit.renders_of_fieldsOf hfields').field?_etag_of_text hetag, fun _ => ⟨_, hread, hfields'⟩⟩

private theorem inv_step_writing (hp₀ : p₀.bindings.Sound) {s : Interleaving σ ι}
    (h : Inv guard clients p₀ s) {i : ι} {a : Nat} {fields : List (Value × Value)}
    (hphase : s.phase i = .writing a fields) :
    Inv guard clients p₀ (step name clients s i) := by
  have hi : ∀ p, s.phase i ≠ .finished (.ok p) := by simp [hphase]
  obtain ⟨hservice, hreceived⟩ :=
    ((clients i).call name).step_of_action s.world (.writing a fields) rfl
  obtain ⟨hvalid, hused, hreply⟩ := guard.write h.valid
    (show Request.resource ⟨(clients i).collection, name, .setPolicy fields,
      (clients i).credentials⟩ = name from rfl) rfl
  unfold step
  dsimp only
  rw [hphase]
  generalize ((clients i).call name).step s.world (.writing a fields) = next
    at hservice hreceived ⊢
  obtain ⟨w, q⟩ := next
  replace hservice : w.service = _ := hservice
  simp only [Client.call] at hservice hreceived
  rw [← hservice] at hvalid hused hreply
  rcases hreply with ⟨hfields, e, hreply⟩ | ⟨hetag, t, hnew, hfields, hreply⟩
  · have hrefused : isAccepted ((clients i).call name) s.world (.writing a fields) = false := by
      simp [isAccepted, Client.call, hreply, Except.isOk, Except.toBool]
    rw [hrefused]
    rw [hreply] at hreceived
    cases hreceived with
    | writeAgain he ha => exact h.move hvalid hfields hused hi (by simp) (by simp)
    | writeFailed => exact h.move hvalid hfields hused hi (by simp) (by simp)
  · have haccepted : isAccepted ((clients i).call name) s.world (.writing a fields) = true := by
      simp [isAccepted, Client.call, hreply, Except.isOk, Except.toBool]
    rw [haccepted]
    rw [hreply] at hreceived
    obtain ⟨p, hdecode, hinv⟩ :=
      h.stored hp₀ hvalid hused hi (h.due i a fields hphase) hetag hnew hfields
    cases hreceived with
    | written =>
      rw [hdecode]
      exact hinv

/-- **A request of one client** keeps the invariant. -/
theorem inv_step (hp₀ : p₀.bindings.Sound) {s : Interleaving σ ι} (h : Inv guard clients p₀ s)
    (i : ι) : Inv guard clients p₀ (step name clients s i) := by
  cases hphase : s.phase i with
  | finished outcome =>
    have hself : Function.update s.phase i (.finished outcome) = s.phase := by
      rw [← hphase, Function.update_eq_self]
    simpa [step, hphase, isAccepted, gives, hself] using h
  | reading a => exact inv_step_reading hp₀ h hphase
  | writing a fields => exact inv_step_writing hp₀ h hphase

/-- **Any number of requests** keep the invariant. -/
theorem inv_run (hp₀ : p₀.bindings.Sound) {s : Interleaving σ ι} (h : Inv guard clients p₀ s)
    (schedule : List ι) : Inv guard clients p₀ (run name clients schedule s) := by
  unfold run
  induction schedule generalizing s with
  | nil => exact h
  | cons i rest ih => exact ih (inv_step hp₀ h i)

/-- **Serialisability.** Let a service guard a document by its tag, and let the document be one that
can be read and has a text as its tag. Then, whatever the order in which clients make their
requests, the document and the policies given are those of their amendments, one after another. -/
theorem serializable (guard : TagGuard σ name) (clients : ι → Client) (w : World σ) (p₀ : Policy)
    (hvalid : guard.Valid w.service)
    (hjson : Value.fieldsJson (guard.fields w.service) = true)
    (htag : ∃ t, Value.field "etag" (guard.fields w.service) = .text t)
    (hread : Policy.decode (.map (guard.fields w.service)) = .ok p₀) (schedule : List ι) :
    Serialized guard clients p₀ (run name clients schedule (start w)) :=
  (inv_run (Policy.decode_sound hread) (inv_start hvalid hjson htag hread) schedule).serialized
    (Policy.decode_sound hread)

/-- Two clients that read before either writes: one write is accepted, and the other refused. -/
theorem serializable_pair :
    ∃ clients : Bool → Client,
      (run "projects/p" clients [false, true, false, true]
        (start { service := ({} : Store) })).accepted = [false] ∧
      Serialized (Store.tagGuard "projects/p") clients ⟨.roles, [], .text "etag-0", .int 1⟩
        (run "projects/p" clients [false, true, false, true]
          (start { service := ({} : Store) })) := by
  have hvalid : Store.Undisturbed {} "projects/p" := by
    refine ⟨rfl, rfl, ⟨_, rfl⟩, fun t ht n hn heq => ?_⟩
    have h0 : Store.View.tag 0 = .text t := ht
    have hn0 := Store.View.tag_injective (h0.trans heq)
    exact absurd hn (by simp [← hn0])
  have hjson : Value.fieldsJson ((Store.tagGuard "projects/p").fields {}) = true := rfl
  have htag : Value.field "etag" ((Store.tagGuard "projects/p").fields {}) = .text "etag-0" := rfl
  have hread : Policy.decode (.map ((Store.tagGuard "projects/p").fields {})) =
      .ok ⟨.roles, [], .text "etag-0", .int 1⟩ := rfl
  refine ⟨fun second => cond second
    ⟨⟨.grant, "editor", ["user:bob@example.com"], [⟨.user, .text "bob@example.com"⟩], by simp, rfl⟩,
      .projects, some "me"⟩
    ⟨⟨.grant, "viewer", ["user:ann@example.com"], [⟨.user, .text "ann@example.com"⟩], by simp, rfl⟩,
      .projects, some "me"⟩, by with_unfolding_all rfl, ?_⟩
  exact serializable (Store.tagGuard "projects/p") _ { service := ({} : Store) } _ hvalid hjson
    ⟨_, htag⟩ hread _

end Interleaving

end AccessPolicy
