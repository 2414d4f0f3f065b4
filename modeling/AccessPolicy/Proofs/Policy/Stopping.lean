import AccessPolicy.Proofs.Policy.Building

/-!
# Calls of a builder that fail

A call that fails leaves the builder as it was, with one exception. A removal takes the identities
that are named out of the members one by one, and stops at the first that cannot be an element of a
set; those before it are gone by then, and the role stays even if no member is left.

* `Builder.Call.StopsAfter`: the removals that stop before their end;
* `Builder.apply_of_stopsAfter`: what they leave;
* `Builder.apply_of_fails`: when a call that fails changes something, and what.
-/

namespace AccessPolicy

/-! ### What removals change -/

namespace Members

private theorem foldl_erase_eq_filter (ids : List Identity) (ms : Members) :
    ids.foldl erase ms = ms.filter fun m => ids.all fun i => !m.same i := by
  induction ids generalizing ms with
  | nil => simp
  | cons i ids ih => simp [ih, erase, List.filter_filter, Bool.and_comm]

/-- Removing identities changes nothing exactly if none of them is a member. -/
theorem foldl_erase_eq_self_iff {ids : List Identity} {ms : Members} :
    ids.foldl erase ms = ms ↔ ∀ i ∈ ids, ms.has i = false := by
  rw [foldl_erase_eq_filter, List.filter_eq_self]
  simp only [List.all_eq_true, Bool.not_eq_true', has, List.any_eq_false, Bool.not_eq_true]
  exact ⟨fun h i hi m hm => h m hm i hi, fun h m hm i hi => h i hi m hm⟩

end Members

namespace Bindings

/-- Replacing the members of a role changes nothing exactly if they are the same list. -/
theorem put_eq_self_iff {bs : Bindings} {r : Role} {ms ms' : Members} (h : bs.find? r = some ms) :
    bs.put r ms' = bs ↔ ms' = ms := by
  induction bs with
  | nil => simp [find?] at h
  | cons e rest ih =>
    rw [find?] at h
    rw [put]
    split
    · next hsame =>
      obtain rfl : e.2 = ms := by simpa [hsame] using h
      simp [Prod.ext_iff]
    · next hne => simpa using ih (by simpa [hne] using h)

end Bindings

namespace Builder

/-! ### Removals that stop -/

/-- A removal that stops on a builder after some of the identities named: the role is bound, and
after these comes an identity that cannot be an element of a set. -/
structure Call.StopsAfter (c : Call) (b : Builder) (r : Role) (ms : Members)
    (named : List (Option Identity)) : Prop where
  /-- What is called, up to the first identity that cannot be an element of a set. -/
  call : ∃ i rest, i.hashable = false ∧ c = .removeIdentity (some r) (named ++ some i :: rest)
  /-- The role may be a key. -/
  role : r.hashable = true
  /-- The role is bound to the members. -/
  bound : b.bindings.find? r = some ms
  /-- The identities named before may be elements of a set. -/
  before : ∀ j, some j ∈ named → j.hashable = true

/-- The members after a removal that stops. -/
private theorem withdraw_append {named : List (Option Identity)}
    (h : ∀ j, some j ∈ named → j.hashable = true) {i : Identity} (hi : i.hashable = false)
    (rest : List (Option Identity)) (ms : Members) :
    withdraw ms (named ++ some i :: rest) =
      ((named.filterMap id).foldl Members.erase ms, some .wrongKind) := by
  induction named generalizing ms with
  | nil => simp [withdraw, hi]
  | cons j named ih =>
    have hnamed : ∀ k, some k ∈ named → k.hashable = true := fun k hk => h k (by simp [hk])
    cases j with
    | none => simpa [withdraw] using ih hnamed ms
    | some j => simpa [withdraw, h j (by simp)] using ih hnamed (ms.erase j)

/-- **A removal that stops** leaves the role without those named before, even if no member is
left. -/
theorem apply_of_stopsAfter {b : Builder} {c : Call} {r : Role} {ms : Members}
    {named : List (Option Identity)} (h : c.StopsAfter b r ms named) :
    b.apply c = ({ b with
      bindings := b.bindings.put r ((named.filterMap id).foldl Members.erase ms) },
      some .wrongKind) := by
  obtain ⟨i, rest, hi, rfl⟩ := h.call
  have hempty : (named ++ some i :: rest).isEmpty = false := by simp
  simp only [apply, removeIdentity, hempty, h.role, h.bound, withdraw_append h.before hi,
    Bool.false_eq_true, if_false, Bool.not_true]

/-- Identities that are not all elements of a set have a first one that is not. -/
private theorem exists_stop {ids : List (Option Identity)}
    (h : ¬ ∀ i, some i ∈ ids → i.hashable = true) : ∃ named i rest, i.hashable = false ∧
      ids = named ++ some i :: rest ∧ ∀ j, some j ∈ named → j.hashable = true := by
  induction ids with
  | nil => simp at h
  | cons x ids ih =>
    by_cases hx : ∃ i, x = some i ∧ i.hashable = false
    · obtain ⟨i, rfl, hi⟩ := hx
      exact ⟨[], i, ids, hi, rfl, by simp⟩
    · have hx' : ∀ i, x = some i → i.hashable = true := fun i hi => by
        by_contra hno
        exact hx ⟨i, hi, by simpa using hno⟩
      obtain ⟨named, i, rest, hi, rfl, hnamed⟩ := ih fun hall => h fun i hi =>
        (List.mem_cons.mp hi).elim (fun he => hx' i he.symm) (hall i)
      refine ⟨x :: named, i, rest, hi, rfl, fun j hj => ?_⟩
      exact (List.mem_cons.mp hj).elim (fun he => hx' j he.symm) (hnamed j)

private theorem settle_of_fails {b : Builder} {r : Except Failure Builder} {e : Failure}
    (h : (b.settle r).2 = some e) : (b.settle r).1 = b := by
  cases r with
  | error e => rfl
  | ok b' => simp [settle] at h

/-- Either a call that fails changes nothing, or it is a removal that stops. -/
private theorem apply_cases_of_fails {b : Builder} {c : Call} {e : Failure}
    (h : (b.apply c).2 = some e) :
    (b.apply c).1 = b ∨ ∃ r ms named, c.StopsAfter b r ms named := by
  cases c with
  | addIdentity role ids => exact .inl (settle_of_fails h)
  | removeRole role => exact .inl (settle_of_fails h)
  | setBindings grants => exact .inl (settle_of_fails h)
  | setEtag etag => simp [apply] at h
  | setVersion version => simp [apply] at h
  | removeIdentity role ids =>
    by_cases hne : ids = []
    · exact .inl (by simp [apply, removeIdentity, hne])
    cases role with
    | none => exact .inl (by simp [apply, removeIdentity, hne])
    | some r =>
      by_cases hr : r.hashable = true
      · by_cases hids : ∀ i, some i ∈ ids → i.hashable = true
        · simp [apply, removeIdentity_of_hashable hr hne hids] at h
        · cases hfind : b.bindings.find? r with
          | none => exact .inl (by simp [apply, removeIdentity, hne, hr, hfind])
          | some ms =>
            obtain ⟨named, i, rest, hi, rfl, hnamed⟩ := exists_stop hids
            exact .inr ⟨r, ms, named, ⟨i, rest, hi, rfl⟩, hr, hfind, hnamed⟩
      · exact .inl (by simp [apply, removeIdentity, hne, hr])

/-- **Calls that fail.** A call that fails leaves the builder as it was, unless it is a removal that
stops after a member was named. Tag, version and the roles in their order are always kept; what a
removal that stops leaves of the members are those not named before. -/
theorem apply_of_fails {b : Builder} {c : Call} {e : Failure} (h : (b.apply c).2 = some e) :
    ((b.apply c).1 = b ↔ ¬ ∃ r ms named, c.StopsAfter b r ms named ∧
      ∃ i, some i ∈ named ∧ ms.has i = true) ∧
    (b.apply c).1.etag = b.etag ∧ (b.apply c).1.version = b.version ∧
    (b.apply c).1.bindings.map Prod.fst = b.bindings.map Prod.fst ∧
    ∀ r ms named, c.StopsAfter b r ms named → (b.apply c).1.bindings =
      b.bindings.put r ((named.filterMap id).foldl Members.erase ms) := by
  have hstop : ∀ r ms named, c.StopsAfter b r ms named →
      ((b.apply c).1 = b ↔ ¬ ∃ i, some i ∈ named ∧ ms.has i = true) := by
    intro r ms named hs
    have hself : ({ b with bindings := b.bindings.put r ((named.filterMap id).foldl
        Members.erase ms) } : Builder) = b ↔
        b.bindings.put r ((named.filterMap id).foldl Members.erase ms) = b.bindings :=
      ⟨congrArg bindings, fun h => by rw [h]⟩
    rw [apply_of_stopsAfter hs, hself, Bindings.put_eq_self_iff hs.bound,
      Members.foldl_erase_eq_self_iff]
    simp
  rcases apply_cases_of_fails h with hkept | ⟨r, ms, named, hs⟩
  · refine ⟨iff_of_true hkept ?_, by rw [hkept], by rw [hkept], by rw [hkept], ?_⟩
    · rintro ⟨r, ms, named, hs, hmember⟩
      exact (hstop r ms named hs).mp hkept hmember
    · exact fun r ms named hs => by rw [apply_of_stopsAfter hs]
  · refine ⟨⟨?_, fun hno => ?_⟩, ?_, ?_, ?_, ?_⟩
    · rintro hkept ⟨r', ms', named', hs', hmember⟩
      exact (hstop r' ms' named' hs').mp hkept hmember
    · exact (hstop r ms named hs).mpr fun hmember => hno ⟨r, ms, named, hs, hmember⟩
    · rw [apply_of_stopsAfter hs]
    · rw [apply_of_stopsAfter hs]
    · rw [apply_of_stopsAfter hs]
      exact Bindings.map_fst_put hs.bound _
    · exact fun r ms named hs => by rw [apply_of_stopsAfter hs]

/-- A grant that fails, and leaves the builder as it was. -/
theorem apply_of_fails_grant :
    let ann : Identity := ⟨.user, .text "ann@example.com"⟩
    let b := run {} [.addIdentity (some Role.viewer) [some ann]]
    let c : Call := .addIdentity (some Role.viewer) [some ⟨.user, .text "bob@example.com"⟩, none]
    (b.apply c).2 = some (.rejected .nullIdentity) ∧
      ((b.apply c).1 = b ↔ ¬ ∃ r ms named, c.StopsAfter b r ms named ∧
        ∃ i, some i ∈ named ∧ ms.has i = true) := by
  intro ann b c
  have hfails : (b.apply c).2 = some (.rejected .nullIdentity) := by rfl
  exact ⟨hfails, (apply_of_fails hfails).1⟩

/-- **A removal that stops half-way.** A removal that names a member, and after it an identity whose
value is a list, fails. The member is gone all the same, and the role is left without members. -/
theorem removal_stops_halfway :
    let ann : Identity := ⟨.user, .text "ann@example.com"⟩
    let b := run {} [.addIdentity (some Role.viewer) [some ann]]
    let c : Call := .removeIdentity (some Role.viewer) [some ann, some ⟨.user, .list [.text "x"]⟩]
    b.bindings = [(Role.viewer, [ann])] ∧ (b.apply c).2 = some .wrongKind ∧
      (b.apply c).1.bindings = [(Role.viewer, [])] ∧ (b.apply c).1 ≠ b := by
  intro ann b c
  have hbefore : b.bindings = [(Role.viewer, [ann])] := by rfl
  have hfails : (b.apply c).2 = some .wrongKind := by with_unfolding_all rfl
  have hafter : (b.apply c).1.bindings = [(Role.viewer, [])] := by with_unfolding_all rfl
  refine ⟨hbefore, hfails, hafter, fun hkept => ?_⟩
  rw [hkept, hbefore] at hafter
  simp at hafter

end Builder

end AccessPolicy
