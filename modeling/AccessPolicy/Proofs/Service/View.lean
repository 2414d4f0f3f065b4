import AccessPolicy.Proofs.Value.Field
import AccessPolicy.Service.Store
import Mathlib.Logic.Function.Iterate
import Std.Data.String.ToNat

/-!
# What requests can see of a store

A `Store.View` is the part of a store that replies are made of: the current document of every
resource, the number of tags issued, and the changes by others that are still to come. What befalls
requests on their way, and whether a resource has its first document already, is left out. Each
request is one equation on views.

* `Store.read_cases`, `Store.written_write`: what a read and a write do to the view, and what they
  reply;
* `Store.arrive`: what happens when a write arrives, before its tag is compared;
* `Store.passEdits`: the store after some changes by others, and nothing else;
* `Store.View.Guarded.current_eq_of_etag`: as long as only others change a document, it is the same
  whenever its tag is the same, if no tag was there before it was issued.
-/

namespace AccessPolicy

namespace Store

/-- The part of a store that replies are made of. -/
structure View where
  /-- The current document of each resource. -/
  current : String → Value
  /-- How many entity tags have been issued. -/
  issued : Nat
  /-- The changes by others that are still to come. -/
  edits : List (String × Value)

/-- The view of a store. -/
def view (s : Store) : View := ⟨s.current, s.issued, s.edits⟩

namespace View

/-- The tag of a number. -/
def tag (n : Nat) : Value := .text ("etag-" ++ toString n)

theorem tag_injective {m n : Nat} (h : tag m = tag n) : m = n := by
  have htext : "etag-" ++ toString m = "etag-" ++ toString n := by simpa [tag] using h
  exact Nat.repr_injective (String.append_right_inj _ |>.mp htext)

/-- The view after a change by someone else. One that cannot be made is passed over. -/
def edit (v : View) (name : String) (binding : Value) : View :=
  match v.current name with
  | .map fields => match withBinding binding (tag (v.issued + 1)) fields with
    | .ok fields =>
      { v with current := Function.update v.current name (.map fields), issued := v.issued + 1 }
    | .error _ => v
  | _ => v

/-- The view after the next change by someone else, if there is one. -/
def takeEdit (v : View) : View :=
  match v.edits with
  | [] => v
  | (name, binding) :: rest => { v with edits := rest }.edit name binding

/-- The document that is stored for given fields. -/
def stored (v : View) (fields : List (Value × Value)) : Value :=
  .map (Value.putField "etag" (tag (v.issued + 1)) fields)

/-- The view after a write of given fields is accepted. -/
def accept (v : View) (name : String) (fields : List (Value × Value)) : View :=
  ⟨Function.update v.current name (v.stored fields), v.issued + 1, v.edits⟩

end View

/-! ### Requests on views -/

theorem current_setDocument (s : Store) (name : String) (document : Value) :
    (s.setDocument name document).current = Function.update s.current name document := by
  funext other
  by_cases h : other = name
  · subst h
    simp [current]
  · simp [current, document?_setDocument_of_ne s h, h]

/-- The first document of a resource is what a resource without one has anyway. -/
@[simp] theorem view_touch (s : Store) (name : String) : (s.touch name).view = s.view := by
  unfold touch
  cases hd : s.document? name with
  | some document => rfl
  | none =>
    have hfresh : s.current name = fresh := by simp [current, hd]
    simp only [view, current_setDocument, ← hfresh, Function.update_eq_self]
    rfl

@[simp] theorem writeAnswer_touch (s : Store) (name : String) :
    (s.touch name).writeAnswer = s.writeAnswer := by
  unfold touch
  split <;> rfl

/-- A document that was set under a new tag. -/
private theorem view_setDocument (s : Store) (name : String) (document : Value) (issued : Nat) :
    view { s.setDocument name document with issued := issued } =
      ⟨Function.update s.current name document, issued, s.edits⟩ := by
  rw [← current_setDocument]
  rfl

private theorem edit_spec (s : Store) (name : String) (binding : Value) :
    (s.edit name binding).1.view = s.view.edit name binding ∧
      (s.edit name binding).1.writeAnswer = s.writeAnswer := by
  have hview := s.view_touch name
  have hanswer := s.writeAnswer_touch name
  unfold edit View.edit
  generalize s.touch name = t at hview hanswer
  rw [← hview, ← hanswer]
  have hcurrent : t.view.current name = t.current name := rfl
  simp only [hcurrent]
  cases hdocument : t.current name with
  | map fields =>
    have htag : t.nextEtag = View.tag (t.view.issued + 1) := rfl
    simp only [htag]
    cases withBinding binding (View.tag (t.view.issued + 1)) fields with
    | ok fields' => exact ⟨view_setDocument t name (.map fields') _, rfl⟩
    | error e => exact ⟨rfl, rfl⟩
  | _ => exact ⟨rfl, rfl⟩

/-- **A change by someone else** takes the view where it should. -/
theorem takeEdit_spec (s : Store) :
    s.takeEdit.1.view = s.view.takeEdit ∧ s.takeEdit.1.writeAnswer = s.writeAnswer := by
  unfold takeEdit View.takeEdit
  have hedits : s.view.edits = s.edits := rfl
  simp only [hedits]
  cases s.edits with
  | nil => exact ⟨rfl, rfl⟩
  | cons edit rest => exact edit_spec { s with edits := rest } edit.1 edit.2

/-- **A read** leaves the view, and replies with the current document unless something befalls
it. -/
theorem read_cases (s : Store) (name : String) :
    (s.read name).1.view = s.view ∧ (s.read name).1.writeAnswer = s.writeAnswer ∧
      ((s.read name).2 = .ok (s.view.current name) ∨ ∃ e, (s.read name).2 = .error e) := by
  unfold read
  cases takeFault s.readFaults with
  | mk fault rest =>
    cases fault with
    | some f => exact ⟨rfl, rfl, .inr ⟨_, rfl⟩⟩
    | none =>
      exact ⟨view_touch { s with readFaults := rest } name, writeAnswer_touch _ name, .inl rfl⟩

/-- A read that nothing befalls replies with the current document. -/
theorem read_of_takeFault {s : Store} (h : (takeFault s.readFaults).1 = none) (name : String) :
    (s.read name).2 = .ok (s.current name) := by
  unfold read
  generalize takeFault s.readFaults = fault at h
  obtain ⟨f, rest⟩ := fault
  obtain rfl : f = none := h
  rfl

/-- **A write that is accepted** is in the view. -/
theorem view_accept (s : Store) (name : String) (fields : List (Value × Value)) :
    (s.accept name fields).1.view = s.view.accept name fields :=
  view_setDocument s name _ _

/-- What was accepted is what is there. -/
theorem current_accept_touch (s : Store) (name : String) (fields : List (Value × Value)) :
    ((s.touch name).accept name fields).1.current name = s.view.stored fields := by
  have hview := congrArg View.current (view_accept (s.touch name) name fields)
  rw [view_touch] at hview
  exact (congrFun hview name).trans (Function.update_self ..)

/-! ### Writes in two parts -/

/-- The arrival of a write: something befalls it, or the next change by someone else happens. -/
def arrive (s : Store) : Store × Except Failure Unit :=
  match takeFault s.writeFaults with
  | (some f, rest) => ({ s with writeFaults := rest }, .error f.failure)
  | (none, rest) => { s with writeFaults := rest }.takeEdit

/-- On its arrival, a write meets a store after at most one change by someone else. -/
private theorem exists_view_arrive (s : Store) :
    ∃ n, s.arrive.1.view = View.takeEdit^[n] s.view ∧ s.arrive.1.writeAnswer = s.writeAnswer := by
  unfold arrive
  split
  · exact ⟨0, rfl, rfl⟩
  · next rest _ =>
    exact ⟨1, takeEdit_spec { s with writeFaults := rest }⟩

section Write

variable {s t : Store} {name : String} {fields : List (Value × Value)}

/-- A write that fails on its arrival goes no further. -/
theorem write_of_failed {e : Failure} (h : s.arrive = (t, .error e)) :
    s.write name fields = (t, .error e) := by
  unfold arrive at h
  unfold write
  split at h
  · next hfault => simpa only [hfault, Prod.mk.injEq, Except.error.injEq] using h
  · next hfault => simp only [hfault, h]

/-- A write that arrives is refused or accepted by its tag. -/
theorem write_of_arrived (h : s.arrive = (t, .ok ())) :
    s.write name fields =
      if carriesOther (etagOf (t.current name)) fields then (t.touch name, .error conflict)
      else (((t.touch name).accept name fields).1,
        .ok (t.writeAnswer.getD ((t.touch name).accept name fields).2)) := by
  have hcurrent : (t.touch name).current = t.current := congrArg View.current (t.view_touch name)
  have hanswer : ((t.touch name).accept name fields).1.writeAnswer = t.writeAnswer :=
    t.writeAnswer_touch name
  unfold arrive at h
  unfold write
  split at h
  · simp at h
  · next hfault => simp only [hfault, h, hcurrent, hanswer]

/-- A write that carries another tag than the document is refused. -/
theorem write_of_refused (h : s.arrive = (t, .ok ()))
    (hother : carriesOther (etagOf (t.current name)) fields = true) :
    s.write name fields = (t.touch name, .error conflict) := by
  rw [write_of_arrived h, if_pos hother]

/-- A write that carries no tag, or that of the document, is accepted. -/
theorem write_of_accepted (h : s.arrive = (t, .ok ())) (hanswer : t.writeAnswer = none)
    (hsame : carriesOther (etagOf (t.current name)) fields = false) :
    s.write name fields = (((t.touch name).accept name fields).1, .ok (t.view.stored fields)) := by
  have hstored : ((t.touch name).accept name fields).2 = t.view.stored fields := by
    rw [← t.view_touch name]
    rfl
  rw [write_of_arrived h, if_neg (by simp [hsame]), hanswer, Option.getD_none, hstored]

end Write

/-- What a write comes to: the store and the reply. -/
inductive Written (v : View) (name : String) (fields : List (Value × Value)) :
    Store × Except Failure Value → Prop where
  /-- It fails, after some changes by others. -/
  | failed {t : Store} (n : Nat) (e : Failure) (hview : t.view = View.takeEdit^[n] v)
    (hanswer : t.writeAnswer = none) : Written v name fields (t, .error e)
  /-- It is accepted, after some changes by others: the fields carry no tag, or the one that the
  document has then. The reply is what was stored. -/
  | accepted {t : Store} (n : Nat)
    (hetag : carriesOther (etagOf ((View.takeEdit^[n] v).current name)) fields = false)
    (hview : t.view = (View.takeEdit^[n] v).accept name fields) (hanswer : t.writeAnswer = none) :
    Written v name fields (t, .ok ((View.takeEdit^[n] v).stored fields))

/-- **A write** fails and leaves the document, or is accepted, after at most one change by someone
else. -/
theorem written_write (s : Store) (name : String) (fields : List (Value × Value))
    (hanswer : s.writeAnswer = none) : Written s.view name fields (s.write name fields) := by
  obtain ⟨n, hview, hkept⟩ := s.exists_view_arrive
  cases h : s.arrive with
  | mk t outcome =>
    rw [h] at hview hkept
    have hnone : t.writeAnswer = none := hkept.trans hanswer
    have htouch : (t.touch name).view = View.takeEdit^[n] s.view := (t.view_touch name).trans hview
    have htouched : (t.touch name).writeAnswer = none := (t.writeAnswer_touch name).trans hnone
    cases outcome with
    | error e =>
      rw [write_of_failed h]
      exact .failed n e hview hnone
    | ok u =>
      by_cases hother : carriesOther (etagOf (t.current name)) fields = true
      · rw [write_of_refused h hother]
        exact .failed n conflict htouch htouched
      · have hsame := Bool.eq_false_iff.mpr hother
        rw [write_of_accepted h hnone hsame, hview]
        refine .accepted n ?_ ?_ htouched
        · rw [← hview]
          exact hsame
        · rw [view_accept, htouch]

/-! ### Changes by others -/

/-- The store after some changes by others, and nothing else. -/
def passEdits (n : Nat) (s : Store) : Store := (fun s => s.takeEdit.1)^[n] s

theorem view_passEdits (n : Nat) (s : Store) : (s.passEdits n).view = View.takeEdit^[n] s.view := by
  unfold passEdits
  induction n generalizing s with
  | zero => rfl
  | succ n ih => rw [Function.iterate_succ_apply, ih, (takeEdit_spec s).1]; rfl

namespace View

theorem edit_cases (v : View) (name : String) (binding : Value) :
    v.edit name binding = v ∨ ∃ fields fields', v.current name = .map fields ∧
      withBinding binding (tag (v.issued + 1)) fields = .ok fields' ∧
      v.edit name binding = { v with
        current := Function.update v.current name (.map fields'), issued := v.issued + 1 } := by
  unfold edit
  split
  · next fields hfields =>
    split
    · next fields' hedited => exact .inr ⟨fields, fields', hfields, hedited, rfl⟩
    · exact .inl rfl
  · exact .inl rfl

/-- Taking the next change by someone else: none is left, it is passed over, or it is made. -/
theorem takeEdit_cases (v : View) :
    v.takeEdit = { v with edits := v.edits.drop 1 } ∨
      ∃ name binding fields fields', (name, binding) ∈ v.edits ∧ v.current name = .map fields ∧
        withBinding binding (tag (v.issued + 1)) fields = .ok fields' ∧
        v.takeEdit = ⟨Function.update v.current name (.map fields'), v.issued + 1,
          v.edits.drop 1⟩ := by
  unfold takeEdit
  cases hedits : v.edits with
  | nil =>
    have hkept : v = { v with edits := [] } := by rw [← hedits]
    exact .inl hkept
  | cons edit rest =>
    obtain ⟨name, binding⟩ := edit
    rcases edit_cases { v with edits := rest } name binding with h | ⟨fields, fields', hf, he, h⟩
    · exact .inl h
    · exact .inr ⟨name, binding, fields, fields', by simp, hf, he, h⟩

theorem edits_iterate (n : Nat) (v : View) : (takeEdit^[n] v).edits = v.edits.drop n := by
  induction n with
  | zero => rfl
  | succ n ih =>
    rw [Function.iterate_succ_apply', ← List.drop_drop, ← ih]
    rcases (takeEdit^[n] v).takeEdit_cases with h | ⟨_, _, _, _, -, -, -, h⟩ <;> rw [h]

/-! ### Documents under a guard -/

/-- A document that a service can send, with a text as its tag that is not issued again; and changes
to come that a service can send. -/
structure Guarded (v : View) (name : String) : Prop where
  /-- The document is a map with a tag that is not issued again. -/
  document : ∃ fields etag, v.current name = .map fields ∧ Value.fieldsJson fields = true ∧
    Value.field "etag" fields = .text etag ∧ ∀ n, v.issued < n → .text etag ≠ tag n
  /-- The changes to come are such as a service can send. -/
  edits : ∀ e ∈ v.edits, e.2.isJson = true

theorem withBinding_ok {binding etag : Value} {fields fields' : List (Value × Value)}
    (h : withBinding binding etag fields = .ok fields') :
    Value.field "etag" fields' = etag ∧
      (binding.isJson = true → etag.isJson = true → Value.fieldsJson fields = true →
        Value.fieldsJson fields' = true) := by
  unfold withBinding at h
  split at h
  · obtain rfl := Except.ok.inj h
    refine ⟨Value.field_putField_self _ _ _, fun hb he hf => ?_⟩
    refine Value.fieldsJson_putField (Value.fieldsJson_putField hf _ ?_) _ he
    simp [Value.isJson, Value.allJson, hb]
  · next bs hbs =>
    obtain rfl := Except.ok.inj h
    refine ⟨Value.field_putField_self _ _ _, fun hb he hf => ?_⟩
    have hlist := Value.isJson_of_field? hf hbs
    refine Value.fieldsJson_putField (Value.fieldsJson_putField hf _ ?_) _ he
    simp only [Value.isJson, Value.allJson_iff] at hlist ⊢
    simpa [or_imp, forall_and] using ⟨hlist, hb⟩
  · simp at h

theorem Guarded.takeEdit {v : View} {name : String} (h : v.Guarded name) :
    v.takeEdit.Guarded name := by
  obtain ⟨fields, etag, hcurrent, hjson, hetag, hnew⟩ := h.document
  rcases v.takeEdit_cases with hv | ⟨other, binding, fs, fs', hmem, hfs, hedited, hv⟩ <;> rw [hv]
  · exact ⟨⟨fields, etag, hcurrent, hjson, hetag, hnew⟩,
      fun e he => h.edits e (List.mem_of_mem_drop he)⟩
  · refine ⟨?_, fun e he => h.edits e (List.mem_of_mem_drop he)⟩
    by_cases hname : name = other
    · subst hname
      obtain ⟨htag, hkeeps⟩ := withBinding_ok hedited
      obtain rfl : fs = fields := by simpa [hfs] using hcurrent
      refine ⟨fs', _, by simp, hkeeps (h.edits _ hmem) rfl hjson, htag, fun n hn heq => ?_⟩
      have := tag_injective heq
      simp only at hn
      omega
    · refine ⟨fields, etag, by simp [hname, hcurrent], hjson, hetag, fun n hn => hnew n ?_⟩
      simp only at hn
      omega

theorem Guarded.iterate {v : View} {name : String} (h : v.Guarded name) (n : Nat) :
    (View.takeEdit^[n] v).Guarded name := by
  induction n with
  | zero => exact h
  | succ n ih => rw [Function.iterate_succ_apply']; exact ih.takeEdit

/-- Under changes by others, a document stays, or its tag is one issued since. -/
theorem current_or_tag (v : View) (name : String) (n : Nat) :
    v.issued ≤ (takeEdit^[n] v).issued ∧
      ((takeEdit^[n] v).current name = v.current name ∨
        ∃ m, v.issued < m ∧ etagOf ((takeEdit^[n] v).current name) = tag m) := by
  induction n with
  | zero => exact ⟨le_rfl, .inl rfl⟩
  | succ n ih =>
    obtain ⟨hle, hcases⟩ := ih
    rw [Function.iterate_succ_apply']
    generalize takeEdit^[n] v = u at hle hcases
    rcases u.takeEdit_cases with hu | ⟨other, binding, fs, fs', -, -, hedited, hu⟩ <;> rw [hu]
    · exact ⟨hle, hcases⟩
    · refine ⟨by simp only; omega, ?_⟩
      by_cases hname : name = other
      · subst hname
        exact .inr ⟨u.issued + 1, by omega, by simp [etagOf, (withBinding_ok hedited).1]⟩
      · simpa [hname] using hcases

/-- **Same tag, same document.** As long as only others change a guarded document, it is the same
whenever its tag is the same. -/
theorem Guarded.current_eq_of_etag {v : View} {name : String} (h : v.Guarded name) {j k : Nat}
    (hjk : j ≤ k)
    (hetag : etagOf ((View.takeEdit^[k] v).current name) =
      etagOf ((View.takeEdit^[j] v).current name)) :
    (View.takeEdit^[k] v).current name = (View.takeEdit^[j] v).current name := by
  obtain ⟨d, rfl⟩ := Nat.exists_eq_add_of_le' hjk
  rw [Function.iterate_add_apply] at hetag ⊢
  obtain ⟨fields, etag, hcurrent, -, hfield, hnew⟩ := (h.iterate j).document
  rcases (current_or_tag (View.takeEdit^[j] v) name d).2 with hsame | ⟨m, hm, htag⟩
  · exact hsame
  · -- the document was changed since, but then its tag is a new one
    rw [htag, hcurrent, etagOf, hfield] at hetag
    exact absurd hetag.symm (hnew m hm)

end View

end Store

end AccessPolicy
