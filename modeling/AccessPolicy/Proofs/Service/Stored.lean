import AccessPolicy.Proofs.Service.Session

/-!
# Which documents were stored

Of some requests, those that store a document are the writes that are accepted; and on the arrival
of a write, accepted or not, a change by someone else is stored first. `Store.storedBy` names the
resources whose documents were stored. All other documents stay, and those that were stored carry
tags issued since (`Store.Restored`). So a tag that is not issued again tells whether a document was
stored since it was there.

* `Store.restored_answer`, `Store.restored_process`: what one request and what several do;
* `Store.Tagged.etag_eq_iff`: the tag is the same exactly if the document was not stored since.
-/

namespace AccessPolicy

namespace Store

open View (tag)

/-! ### Documents stored by requests -/

/-- The resource of the next change by someone else, if there is one. -/
def arriving (s : Store) : List String := (s.edits.take 1).map (·.1)

/-- The resources whose documents are stored when a request is processed: that of a change by
someone else that happens on its arrival, and its own if it is a write that is accepted. -/
def stored (s : Store) (r : Request) : List String :=
  match r.action, s.arrive with
  | .setPolicy fields, (t, .ok ()) =>
    s.arriving ++ if carriesOther (etagOf (t.current r.resource)) fields then [] else [r.resource]
  | _, _ => []

/-- The resources whose documents are stored when requests are processed in turn. -/
def storedBy (s : Store) : List Request → List String
  | [] => []
  | r :: rest => s.stored r ++ storedBy (s.answer r).1 rest

/-- A store comes after another one, in which the documents of some resources were stored: these
carry tags issued since, the others are what they were. -/
structure Restored (names : List String) (s t : Store) : Prop where
  /-- Tags are issued in turn. -/
  issued : s.issued ≤ t.issued
  /-- The answer to writes stays. -/
  writeAnswer : t.writeAnswer = s.writeAnswer
  /-- The other documents stay. -/
  kept : ∀ name ∉ names, t.current name = s.current name
  /-- The documents that were stored carry new tags. -/
  tagged : ∀ name ∈ names, ∃ m, etagOf (t.current name) = tag m ∧ s.issued < m ∧ m ≤ t.issued

namespace Restored

variable {names names' : List String} {s t u : Store}

/-- The documents are what they were. -/
theorem of_current_eq (h : t.current = s.current) (hissued : t.issued = s.issued)
    (hanswer : t.writeAnswer = s.writeAnswer) : Restored [] s t where
  issued := hissued.ge
  writeAnswer := hanswer
  kept name _ := congrFun h name
  tagged := by simp

theorem of_view_eq (h : t.view = s.view) (hanswer : t.writeAnswer = s.writeAnswer) :
    Restored [] s t :=
  of_current_eq (congrArg View.current h) (congrArg View.issued h) hanswer

theorem refl (s : Store) : Restored [] s s := of_current_eq rfl rfl rfl

theorem trans (h : Restored names s t) (h' : Restored names' t u) :
    Restored (names ++ names') s u where
  issued := h.issued.trans h'.issued
  writeAnswer := h'.writeAnswer.trans h.writeAnswer
  kept name hname := by
    rw [List.mem_append, not_or] at hname
    exact (h'.kept name hname.2).trans (h.kept name hname.1)
  tagged name hname := by
    have hle := h.issued
    have hle' := h'.issued
    by_cases hlast : name ∈ names'
    · obtain ⟨m, htag, hm, hm'⟩ := h'.tagged name hlast
      exact ⟨m, htag, by omega, hm'⟩
    · obtain ⟨m, htag, hm, hm'⟩ := h.tagged name ((List.mem_append.mp hname).resolve_right hlast)
      exact ⟨m, by rw [h'.kept name hlast, htag], hm, by omega⟩

end Restored

theorem restored_touch (s : Store) (name : String) : Restored [] s (s.touch name) :=
  .of_view_eq (s.view_touch name) (s.writeAnswer_touch name)

/-- A document that is stored under the next tag. -/
private theorem restored_setDocument (s : Store) (name : String) {fields : List (Value × Value)}
    (h : Value.field "etag" fields = tag (s.issued + 1)) :
    Restored [name] s { s.setDocument name (.map fields) with issued := s.issued + 1 } where
  issued := Nat.le_succ _
  writeAnswer := rfl
  kept other hother := by
    have hne : other ≠ name := by simpa using hother
    have hcurrent : (s.setDocument name (.map fields)).current other = s.current other := by
      rw [current, document?_setDocument_of_ne s hne, current]
    exact hcurrent
  tagged other hother := by
    obtain rfl := List.mem_singleton.mp hother
    refine ⟨s.issued + 1, ?_, Nat.lt_succ_self _, le_rfl⟩
    have hcurrent : (s.setDocument other (.map fields)).current other = .map fields := by
      simp [current]
    exact (congrArg etagOf hcurrent).trans h

/-- **A change by someone else** stores one document, unless it cannot be made. -/
theorem restored_edit (s : Store) (name : String) (binding : Value) :
    ((s.edit name binding).2 = .ok () ∧ Restored [name] s (s.edit name binding).1) ∨
      ((∃ e, (s.edit name binding).2 = .error e) ∧ Restored [] s (s.edit name binding).1) := by
  have htouch := s.restored_touch name
  unfold edit
  generalize s.touch name = t at htouch
  dsimp only
  split
  · split
    · next hedited =>
      exact .inl ⟨rfl, htouch.trans (restored_setDocument t name (View.withBinding_ok hedited).1)⟩
    · exact .inr ⟨⟨_, rfl⟩, htouch⟩
  · exact .inr ⟨⟨_, rfl⟩, htouch⟩

/-- **The arrival of a write** stores the document that someone else changes, or fails and stores
none. -/
theorem restored_arrive (s : Store) :
    (s.arrive.2 = .ok () ∧ Restored s.arriving s s.arrive.1) ∨
      ((∃ e, s.arrive.2 = .error e) ∧ Restored [] s s.arrive.1) := by
  unfold arrive
  split
  · exact .inr ⟨⟨_, rfl⟩, .of_current_eq rfl rfl rfl⟩
  · next rest _ =>
    unfold takeEdit arriving
    cases hedits : s.edits with
    | nil => exact .inl ⟨rfl, .of_current_eq rfl rfl rfl⟩
    | cons edit edits =>
      have hpop : Restored [] s { s with writeFaults := rest, edits := edits } :=
        .of_current_eq rfl rfl rfl
      exact (restored_edit { s with writeFaults := rest, edits := edits } edit.1 edit.2).imp
        (.imp_right hpop.trans) (.imp_right hpop.trans)

/-- What arrived without failing stored the document that someone else changed. -/
theorem Restored.of_arrived {s t : Store} (h : s.arrive = (t, .ok ())) :
    Restored s.arriving s t := by
  rcases s.restored_arrive with ⟨-, hst⟩ | ⟨⟨e, he⟩, -⟩
  · rwa [h] at hst
  · simp [h] at he

theorem restored_accept (s : Store) (name : String) (fields : List (Value × Value)) :
    Restored [name] s (s.accept name fields).1 :=
  restored_setDocument s name (Value.field_putField_self _ _ _)

private theorem restored_write (s : Store) (r : Request) {fields : List (Value × Value)}
    (hr : r.action = .setPolicy fields) :
    Restored (s.stored r) s (s.write r.resource fields).1 := by
  have harrive := s.restored_arrive
  unfold stored
  rw [hr]
  cases h : s.arrive with
  | mk t outcome =>
    rw [h] at harrive
    cases outcome with
    | error e =>
      rw [write_of_failed h]
      exact (harrive.resolve_left (by simp)).2
    | ok u =>
      rw [write_of_arrived h]
      refine (harrive.resolve_right (by simp)).2.trans ?_
      split
      · exact t.restored_touch r.resource
      · exact (t.restored_touch r.resource).trans (restored_accept _ r.resource fields)

/-- **A request** stores the documents that it is said to store. -/
theorem restored_answer (s : Store) (r : Request) : Restored (s.stored r) s (s.answer r).1 := by
  unfold answer
  cases haction : r.action with
  | getPolicy version =>
    obtain ⟨hview, hanswer, -⟩ := s.read_cases r.resource
    simpa [stored, haction] using Restored.of_view_eq hview hanswer
  | setPolicy fields => exact s.restored_write r haction
  | testPermissions permissions =>
    have htest : (s.test permissions).1.view = s.view ∧
        (s.test permissions).1.writeAnswer = s.writeAnswer := by
      unfold test
      dsimp only
      split <;> exact ⟨rfl, rfl⟩
    simpa [stored, haction] using Restored.of_view_eq htest.1 htest.2

/-- **Requests in turn** store the documents that they are said to store. -/
theorem restored_process (s : Store) (requests : List Request) :
    Restored (s.storedBy requests) s (Service.process s requests) := by
  induction requests generalizing s with
  | nil => exact .refl s
  | cons r rest ih => exact (s.restored_answer r).trans (ih _)

/-! ### Tags that are not issued again -/

/-- A document carries a text as its tag that is not issued again. -/
def Tagged (s : Store) (name : String) : Prop :=
  ∃ etag, etagOf (s.current name) = .text etag ∧ ∀ n, s.issued < n → .text etag ≠ tag n

variable {names : List String} {s t : Store} {name : String}

theorem Tagged.restored (h : s.Tagged name) (hst : Restored names s t) : t.Tagged name := by
  by_cases hname : name ∈ names
  · obtain ⟨m, htag, -, hm⟩ := hst.tagged name hname
    refine ⟨_, htag, fun n hn heq => ?_⟩
    have := View.tag_injective heq
    omega
  · obtain ⟨etag, htag, hnew⟩ := h
    exact ⟨etag, by rw [hst.kept name hname, htag], fun n hn =>
      hnew n (hst.issued.trans_lt hn)⟩

/-- The next tag is not that of any such document, now or before. -/
theorem Tagged.ne_next (h : s.Tagged name) (hst : Restored names s t) :
    etagOf (s.current name) ≠ tag (t.issued + 1) := by
  obtain ⟨etag, htag, hnew⟩ := h
  rw [htag]
  exact hnew _ (Nat.lt_succ_of_le hst.issued)

/-- **Same tag, not stored.** The tag of such a document is the same exactly if the document was not
stored since. -/
theorem Tagged.etag_eq_iff (h : s.Tagged name) (hst : Restored names s t) :
    etagOf (t.current name) = etagOf (s.current name) ↔ name ∉ names := by
  constructor
  · intro heq hname
    obtain ⟨etag, htag, hnew⟩ := h
    obtain ⟨m, htag', hm, -⟩ := hst.tagged name hname
    exact hnew m hm (by rw [← htag, ← heq, htag'])
  · intro hname
    rw [hst.kept name hname]

end Store

/-! ### Documents stored in a session -/

namespace World

/-- The resources whose documents were stored since an earlier world. -/
def storedSince (w earlier : World Store) : List String :=
  earlier.service.storedBy (w.requestsSince earlier)

theorem Leads.restored {w u : World Store} (h : w.Leads u) :
    Store.Restored (u.storedSince w) w.service u.service := by
  rw [h.service_eq]
  exact Store.restored_process _ _

end World

end AccessPolicy
