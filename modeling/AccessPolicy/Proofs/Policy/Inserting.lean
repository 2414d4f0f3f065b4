import AccessPolicy.Proofs.Policy.Equality
import AccessPolicy.Proofs.Policy.Trace

/-!
# Calls that insert

New bindings and grants are checked before anything is changed. New bindings are looked at entry by
entry: the role before the set of identities, the set before what is in it. The first entry that
breaks a rule ends the call, and says how it fails. The sets come as supplies that may be read once
only, so it matters what of them is read: those up to that entry, each to its end, and none after
it.

* `Supply.draw`, `Builder.drawBindings`: reading that keeps what is left of the supplies;
* `Grants.Breaks`: the rule that an entry of new bindings breaks;
* `Builder.Replaces`, `Builder.Adds`: what new bindings and grants come to;
* `Builder.insertions`: they come to this on every builder.
-/

namespace AccessPolicy

/-! ### What is left of supplies -/

namespace Supply

/-- What `read` reads, and what it leaves unread. -/
def drawFrom : Supply → Members → Bool → Except Failure (Members × Bool) × Supply
  | [], ms, missing => (.ok (ms, missing), [])
  | .error e :: rest, _, _ => (.error e, rest)
  | .ok none :: rest, ms, _ => drawFrom rest ms true
  | .ok (some i) :: rest, ms, missing =>
    if i.hashable then drawFrom rest (ms.insert i) missing else (.error .wrongKind, rest)

/-- What `collect` collects, and what it leaves unread. -/
def draw (s : Supply) : Except Failure Members × Supply :=
  match s.drawFrom [] false with
  | (.error e, rest) => (.error e, rest)
  | (.ok (_, true), rest) => (.error (.rejected .nullIdentity), rest)
  | (.ok (ms, false), rest) => (.ok ms, rest)

theorem drawFrom_fst (s : Supply) (ms : Members) (missing : Bool) :
    (s.drawFrom ms missing).1 = s.read ms missing := by
  fun_induction drawFrom s ms missing with
  | case1 => rfl
  | case2 => rfl
  | case3 rest ms missing ih => exact ih
  | case4 i rest ms missing hi ih => rw [ih, read, if_pos hi]
  | case5 i rest ms missing hi => rw [read, if_neg hi]

theorem draw_fst (s : Supply) : s.draw.1 = s.collect := by
  rw [collect, ← drawFrom_fst, draw]
  split <;> simp_all

/-- Whether an identity is missing from a supply. -/
def Lacks (s : Supply) : Prop := .ok none ∈ s

/-- The identities that a supply gives. -/
def given (s : Supply) : List Identity := s.filterMap fun item => item.toOption.join

/-- A supply whose items can be read, and may be elements of a set. -/
structure Plain (s : Supply) : Prop where
  /-- Every item can be read. -/
  readable : ∀ e, .error e ∉ s
  /-- Every identity may be an element of a set. -/
  hashable : ∀ i, .ok (some i) ∈ s → i.hashable = true

/-- A plain supply is read to its end, and nothing of it is left. -/
private theorem exists_drawFrom_of_plain {s : Supply} (h : s.Plain) (ms : Members)
    (missing : Bool) : ∃ lacks, s.drawFrom ms missing = (.ok (ms.union s.given, lacks), []) ∧
      (lacks = true ↔ missing = true ∨ s.Lacks) := by
  induction s generalizing ms missing with
  | nil => exact ⟨missing, rfl, by simp [Lacks]⟩
  | cons item rest ih =>
    have hrest : Plain rest := ⟨fun e he => h.readable e (List.mem_cons_of_mem _ he),
      fun i hi => h.hashable i (List.mem_cons_of_mem _ hi)⟩
    rcases item with e | _ | i
    · exact absurd List.mem_cons_self (h.readable e)
    · obtain ⟨lacks, hdraw, hiff⟩ := ih hrest ms true
      exact ⟨lacks, hdraw, by simp [hiff, Lacks]⟩
    · obtain ⟨lacks, hdraw, hiff⟩ := ih hrest (ms.insert i) missing
      refine ⟨lacks, ?_, by simp [hiff, Lacks]⟩
      rw [drawFrom, if_pos (h.hashable i List.mem_cons_self), hdraw]
      rfl

/-- **Plain supplies** are read to their end. They give members unless an identity is missing. -/
theorem draw_of_plain {s : Supply} (h : s.Plain) :
    (s.Lacks → s.draw = (.error (.rejected .nullIdentity), [])) ∧
      (¬ s.Lacks → s.draw = (.ok (Members.union [] s.given), [])) := by
  obtain ⟨lacks, hdraw, hiff⟩ := exists_drawFrom_of_plain h [] false
  simp only [Bool.false_eq_true, false_or] at hiff
  rw [← hiff, draw, hdraw]
  cases lacks <;> simp

theorem mem_given {s : Supply} {i : Identity} : i ∈ s.given ↔ .ok (some i) ∈ s := by
  rw [given, List.mem_filterMap]
  constructor
  · rintro ⟨item, hitem, hi⟩
    rcases item with e | _ | j
    · simp [Except.toOption] at hi
    · simp [Except.toOption] at hi
    · obtain rfl : j = i := by simpa [Except.toOption] using hi
      exact hitem
  · exact fun hi => ⟨_, hi, rfl⟩

/-- A plain supply from which nothing is missing gives identities unless it is empty. -/
private theorem given_eq_nil_iff {s : Supply} (h : s.Plain) (hlacks : ¬ s.Lacks) :
    s.given = [] ↔ s = [] := by
  constructor
  · intro hnil
    by_contra hne
    obtain ⟨item, hitem⟩ := List.exists_mem_of_ne_nil s hne
    rcases item with e | _ | i
    · exact h.readable e hitem
    · exact hlacks hitem
    · have hi := mem_given.mpr hitem
      rw [hnil] at hi
      exact absurd hi List.not_mem_nil
  · rintro rfl
    rfl

end Supply

/-! ### New bindings -/

namespace Grants

/-- The rules that entries of new bindings break: there is no role; there is a role, but no set of
identities; or there are both, and an identity is missing from the set. -/
inductive Breaks : Option Role × Option Supply → Rejection → Prop where
  /-- There is no role. -/
  | role (s : Option Supply) : Breaks (none, s) .nullRole
  /-- There is no set of identities. -/
  | set (r : Role) : Breaks (some r, none) .nullIdentitySet
  /-- An identity is missing from the set. -/
  | identity (r : Role) {s : Supply} (hlacks : s.Lacks) : Breaks (some r, some s) .nullIdentity

/-- Whether an entry breaks no rule. -/
def IsWhole (g : Option Role × Option Supply) : Prop := ∀ c, ¬ Breaks g c

/-- An entry of new bindings after it was looked at: its set is read to its end, unless there is no
role. -/
def spent : Option Role × Option Supply → Option Role × Option Supply
  | (none, s) => (none, s)
  | (some r, s) => (some r, s.map fun _ => [])

/-- Whether an entry has a set with something in it. -/
def hasItems (g : Option Role × Option Supply) : Bool := g.2.any fun s => !s.isEmpty

/-- Whether a binding is that of an entry: of its role, with just the identities of its set, none of
them twice. -/
structure Renders (g : Option Role × Option Supply) (e : Role × Members) : Prop where
  /-- The role is that of the entry. -/
  role : g.1 = some e.1
  /-- No member repeats. -/
  differ : e.2.Pairwise fun i j => i.same j = false
  /-- The members are the identities of the set. -/
  members : ∀ i, e.2.has i = true ↔ ∃ s ∈ g.2, ∃ j, .ok (some j) ∈ s ∧ j.same i = true

/-- New bindings as a map has them, whose sets can be read. -/
structure Plain (gs : Grants) : Prop extends Keyed gs where
  /-- Every item of a set can be read. -/
  readable : ∀ g ∈ gs, ∀ s ∈ g.2, ∀ e, .error e ∉ s

namespace Plain

variable {g : Option Role × Option Supply} {gs : Grants}

theorem of_cons (h : Plain (g :: gs)) : Plain gs where
  roles_differ := h.roles_differ.of_cons
  role_hashable x hx := h.role_hashable x (List.mem_cons_of_mem _ hx)
  identity_hashable x hx := h.identity_hashable x (List.mem_cons_of_mem _ hx)
  readable x hx := h.readable x (List.mem_cons_of_mem _ hx)

theorem of_append {before after : Grants} (h : Plain (before ++ after)) : Plain before where
  roles_differ := (List.pairwise_append.mp h.roles_differ).1
  role_hashable x hx := h.role_hashable x (List.mem_append_left _ hx)
  identity_hashable x hx := h.identity_hashable x (List.mem_append_left _ hx)
  readable x hx := h.readable x (List.mem_append_left _ hx)

theorem supply (h : Plain gs) (hg : g ∈ gs) {s : Supply} (hs : g.2 = some s) : s.Plain :=
  ⟨h.readable g hg s hs, h.identity_hashable g hg s hs⟩

end Plain

/-- An entry that breaks no rule has a role and a set from which nothing is missing. -/
theorem IsWhole.exists_eq {g : Option Role × Option Supply} (h : IsWhole g) :
    ∃ r s, g = (some r, some s) ∧ ¬ s.Lacks := by
  obtain ⟨_ | r, _ | s⟩ := g
  · exact absurd (.role _) (h _)
  · exact absurd (.role _) (h _)
  · exact absurd (.set r) (h _)
  · exact ⟨r, s, rfl, fun hlacks => h _ (.identity r hlacks)⟩

/-- Of entries one of which breaks a rule there is a first that does. -/
private theorem exists_first {gs : Grants} (h : ∃ g ∈ gs, ∃ c, Breaks g c) :
    ∃ before g after c, gs = before ++ g :: after ∧ (∀ x ∈ before, IsWhole x) ∧ Breaks g c := by
  induction gs with
  | nil => simp at h
  | cons g rest ih =>
    by_cases hg : IsWhole g
    · have hrest : ∃ x ∈ rest, ∃ c, Breaks x c := by
        obtain ⟨x, hx, c, hc⟩ := h
        rcases List.mem_cons.mp hx with rfl | hx
        · exact absurd hc (hg c)
        · exact ⟨x, hx, c, hc⟩
      obtain ⟨before, x, after, c, rfl, hbefore, hc⟩ := ih hrest
      exact ⟨g :: before, x, after, c, rfl, List.forall_mem_cons.mpr ⟨hg, hbefore⟩, hc⟩
    · simp only [IsWhole, not_forall, not_not] at hg
      obtain ⟨c, hc⟩ := hg
      exact ⟨[], g, rest, c, rfl, by simp, hc⟩

end Grants

namespace Builder

open Grants

/-- What `readGrants` reads, and the entries as it leaves them. -/
def drawGrants : Grants → Bindings → Except Failure Bindings × Grants
  | [], bs => (.ok bs, [])
  | (none, s) :: rest, _ => (.error (.rejected .nullRole), (none, s) :: rest)
  | (some r, none) :: rest, _ => (.error (.rejected .nullIdentitySet), (some r, none) :: rest)
  | (some r, some s) :: rest, bs =>
    match s.draw with
    | (.error e, left) => (.error e, (some r, some left) :: rest)
    | (.ok [], left) =>
      let (result, rest) := drawGrants rest bs
      (result, (some r, some left) :: rest)
    | (.ok (i :: ms), left) =>
      if r.hashable then
        let (result, rest) := drawGrants rest (bs.put r (i :: ms))
        (result, (some r, some left) :: rest)
      else (.error .wrongKind, (some r, some left) :: rest)

/-- What `setBindings` makes of new bindings, and the entries as it leaves them. -/
def drawBindings (b : Builder) (gs : Grants) : Except Failure Builder × Grants :=
  match drawGrants gs [] with
  | (.error e, left) => (.error e, left)
  | (.ok bs, left) => (.ok { b with bindings := bs }, left)

theorem drawGrants_fst (gs : Grants) (bs : Bindings) :
    (drawGrants gs bs).1 = readGrants gs bs := by
  induction gs generalizing bs with
  | nil => rfl
  | cons g rest ih =>
    obtain ⟨_ | r, _ | s⟩ := g
    · rfl
    · rfl
    · rfl
    · rw [drawGrants, readGrants, ← s.draw_fst]
      split
      · next hdraw => rw [hdraw]
      · next hdraw => simpa [hdraw] using ih bs
      · next i ms left hdraw =>
        rw [hdraw]
        dsimp only
        split
        · exact ih _
        · rfl

/-- **Reading that keeps what is left** does just what `setBindings` does. -/
theorem drawBindings_fst (b : Builder) (gs : Grants) :
    (b.drawBindings gs).1 = b.setBindings (some gs) := by
  rw [setBindings, ← drawGrants_fst, drawBindings]
  split <;> simp_all

/-- A plain supply from which nothing is missing gives the binding of its entry. -/
private theorem renders_of_plain {r : Role} {s : Supply} (hs : s.Plain) :
    Renders (some r, some s) (r, Members.union [] s.given) := by
  have hgiven : ∀ i ∈ s.given, i.hashable = true := fun i hi =>
    hs.hashable i (Supply.mem_given.mp hi)
  refine ⟨rfl, (Members.Sound.union hgiven Members.Sound.nil).differ, fun i => ?_⟩
  rw [Members.has_union_nil hgiven, Members.has_iff]
  simp [Supply.mem_given]

/-- **The step over entries that break no rule.** Each is read to its end, and is bound at the end
of the bindings if there is something in it. -/
private theorem exists_drawGrants_append {before : Grants} (hplain : before.Plain)
    (hwhole : ∀ g ∈ before, IsWhole g) (rest : Grants) {acc : Bindings}
    (hnew : ∀ x ∈ acc, ∀ g ∈ before, ∀ r ∈ g.1, x.1.same r = false) :
    ∃ bs, List.Forall₂ Renders (before.filter hasItems) bs ∧
      drawGrants (before ++ rest) acc = ((drawGrants rest (acc ++ bs)).1,
        before.map spent ++ (drawGrants rest (acc ++ bs)).2) := by
  -- what was bound so far is in `acc`, where the roles to come have no entry yet
  induction before generalizing acc with
  | nil => exact ⟨[], .nil, by simp⟩
  | cons g before ih =>
    obtain ⟨r, s, rfl, hlacks⟩ := (hwhole g List.mem_cons_self).exists_eq
    have hs : s.Plain := hplain.supply List.mem_cons_self rfl
    have hr : r.hashable = true := hplain.role_hashable _ List.mem_cons_self r rfl
    have hdraw := (Supply.draw_of_plain hs).2 hlacks
    obtain ⟨hdiffer, -⟩ := List.pairwise_cons.mp hplain.roles_differ
    replace ih := @ih hplain.of_cons fun x hx => hwhole x (List.mem_cons_of_mem _ hx)
    by_cases hnil : s = []
    · -- there is nothing to bind
      subst hnil
      obtain ⟨bs, hbs, hrest⟩ := ih fun x hx y hy => hnew x hx y (List.mem_cons_of_mem _ hy)
      refine ⟨bs, by simpa [hasItems] using hbs, ?_⟩
      rw [List.cons_append, drawGrants, hdraw]
      simp [Supply.given, Members.union, hrest, spent]
    · have hgiven : s.given ≠ [] := fun h => hnil ((Supply.given_eq_nil_iff hs hlacks).mp h)
      obtain ⟨i, ms, hunion⟩ :=
        List.exists_cons_of_ne_nil (@Bindings.union_ne_nil [] s.given (.inr hgiven))
      have hput : acc.put r (i :: ms) = acc ++ [(r, i :: ms)] :=
        Bindings.put_of_find?_eq_none (Bindings.find?_eq_none.mpr fun x hx =>
          hnew x hx _ List.mem_cons_self r rfl) _
      obtain ⟨bs, hbs, hrest⟩ := @ih (acc ++ [(r, i :: ms)]) fun x hx y hy r' hr' => by
        rcases List.mem_append.mp hx with hx | hx
        · exact hnew x hx y (List.mem_cons_of_mem _ hy) r' hr'
        · obtain rfl := List.mem_singleton.mp hx
          exact hdiffer y hy r rfl r' hr'
      refine ⟨(r, i :: ms) :: bs, ?_, ?_⟩
      · have hitems : hasItems (some r, some s) = true := by simpa [hasItems] using hnil
        rw [List.filter_cons_of_pos hitems]
        exact .cons (hunion ▸ renders_of_plain hs) hbs
      · rw [List.cons_append, drawGrants, hdraw, hunion]
        simp [hr, hput, hrest, spent]

/-- An entry that breaks a rule ends the reading, after its set if it has a role. -/
private theorem drawGrants_of_breaks {g : Option Role × Option Supply} {c : Rejection}
    (hg : Breaks g c) (hplain : ∀ s ∈ g.2, s.Plain) (after : Grants) (bs : Bindings) :
    drawGrants (g :: after) bs = (.error (.rejected c), spent g :: after) := by
  cases hg with
  | role s => rfl
  | set r => rfl
  | @identity r s hlacks =>
    rw [drawGrants, (Supply.draw_of_plain (hplain s rfl)).1 hlacks]
    rfl

/-- **The first entry that breaks a rule** ends the call, whatever comes after it, and nothing of
what comes after it is read. -/
theorem drawBindings_of_first (b : Builder) {before : Grants} {g : Option Role × Option Supply}
    {c : Rejection} (hplain : Grants.Plain (before ++ [g])) (hbefore : ∀ x ∈ before, IsWhole x)
    (hg : Breaks g c) (after : Grants) :
    b.drawBindings (before ++ g :: after) =
      (.error (.rejected c), (before ++ [g]).map spent ++ after) := by
  have hsupply : ∀ s ∈ g.2, s.Plain := fun s hs => hplain.supply (by simp) hs
  obtain ⟨bs, -, hdraw⟩ :=
    @exists_drawGrants_append _ hplain.of_append hbefore (g :: after) [] (by simp)
  rw [drawBindings, hdraw, drawGrants_of_breaks hg hsupply]
  simp

/-- **Entries that break no rule** are read to their ends, and make the bindings. -/
theorem exists_drawBindings_of_whole (b : Builder) {gs : Grants} (hplain : gs.Plain)
    (hwhole : ∀ g ∈ gs, IsWhole g) :
    ∃ bs, b.drawBindings gs = (.ok { b with bindings := bs }, gs.map spent) ∧
      List.Forall₂ Renders (gs.filter hasItems) bs := by
  obtain ⟨bs, hbs, hdraw⟩ := @exists_drawGrants_append _ hplain hwhole [] [] (by simp)
  rw [List.append_nil] at hdraw
  refine ⟨bs, ?_, hbs⟩
  rw [drawBindings, hdraw]
  simp [drawGrants]

/-! ### What insertions come to -/

/-- Whether new bindings come to what they should on a builder. -/
structure Replaces (b : Builder) (gs : Grants) : Prop where
  /-- They are rejected exactly if an entry breaks a rule. -/
  rejected_iff : (∃ c, b.setBindings (some gs) = .error (.rejected c)) ↔ ∃ g ∈ gs, ∃ c, Breaks g c
  /-- The first entry that breaks a rule says how. The entries up to it are read to their ends, and
  those after it are as they were; other ones in their place would make no difference. -/
  first : ∀ before g after c, gs = before ++ g :: after → (∀ x ∈ before, IsWhole x) →
    Breaks g c → (b.drawBindings gs).2 = (before ++ [g]).map spent ++ after ∧
      ∀ others, b.setBindings (some (before ++ g :: others)) = .error (.rejected c)
  /-- If no entry breaks a rule, just the bindings change, to those of the entries that have
  something in their sets, in order. -/
  bound : (∀ g ∈ gs, IsWhole g) → ∃ bs, b.setBindings (some gs) = .ok { b with bindings := bs } ∧
    List.Forall₂ Renders (gs.filter hasItems) bs

/-- Whether a grant comes to what it should on a builder. -/
structure Adds (b : Builder) (role : Option Role) (ids : List (Option Identity)) : Prop where
  /-- It is rejected exactly if the role or an identity is missing. -/
  rejected_iff : (∃ c, b.addIdentity role ids = .error (.rejected c)) ↔ role = none ∨ none ∈ ids
  /-- A missing role is what is said first. -/
  no_role : role = none → b.addIdentity role ids = .error (.rejected .nullRole)
  /-- A missing identity is said if there is a role. -/
  no_identity : role ≠ none → none ∈ ids → b.addIdentity role ids = .error (.rejected .nullIdentity)
  /-- Otherwise just the bindings change: the identities hold the role as well, and all other roles
  are as they were, in order. -/
  added : ∀ r, role = some r → none ∉ ids →
    ∃ bs, b.addIdentity role ids = .ok { b with bindings := bs } ∧
      (∀ r' i, bs.Holds r' i ↔ b.bindings.Holds r' i ∨
        r.same r' = true ∧ ∃ j, some j ∈ ids ∧ j.same i = true) ∧
      bs.erase r = b.bindings.erase r

/-- **New bindings** whose sets can be read come to what they should. -/
theorem replaces (b : Builder) {gs : Grants} (hplain : gs.Plain) : b.Replaces gs := by
  have hfirst : ∀ before g after c, gs = before ++ g :: after → (∀ x ∈ before, IsWhole x) →
      Breaks g c → (b.drawBindings gs).2 = (before ++ [g]).map spent ++ after ∧
        ∀ others, b.setBindings (some (before ++ g :: others)) = .error (.rejected c) := by
    rintro before g after c rfl hbefore hg
    have hread : Grants.Plain (before ++ [g]) := by
      rw [List.append_cons] at hplain
      exact hplain.of_append
    refine ⟨by rw [drawBindings_of_first b hread hbefore hg], fun others => ?_⟩
    rw [← drawBindings_fst, drawBindings_of_first b hread hbefore hg]
  have hbound : (∀ g ∈ gs, IsWhole g) → ∃ bs,
      b.setBindings (some gs) = .ok { b with bindings := bs } ∧
        List.Forall₂ Renders (gs.filter hasItems) bs := fun hwhole => by
    obtain ⟨bs, hdraw, hbs⟩ := exists_drawBindings_of_whole b hplain hwhole
    exact ⟨bs, by rw [← drawBindings_fst, hdraw], hbs⟩
  refine ⟨⟨fun ⟨c, hc⟩ => ?_, fun h => ?_⟩, hfirst, hbound⟩
  · by_contra hno
    obtain ⟨bs, hset, -⟩ := hbound fun g hg c' hc' => hno ⟨g, hg, c', hc'⟩
    rw [hset] at hc
    cases hc
  · obtain ⟨before, g, after, c, rfl, hbefore, hg⟩ := exists_first h
    exact ⟨c, (hfirst before g after c rfl hbefore hg).2 after⟩

/-- A supply of identities is plain if they may be elements of a set. -/
private theorem plain_map_ok {ids : List (Option Identity)}
    (hids : ∀ i, some i ∈ ids → i.hashable = true) : Supply.Plain (ids.map .ok) :=
  ⟨by simp, fun i hi => hids i (by simpa using hi)⟩

/-- Other roles do not notice that a role is given members. -/
private theorem erase_put {r : Role} (hr : r.hashable = true) (bs : Bindings) (ms : Members) :
    (bs.put r ms).erase r = bs.erase r := by
  have hself : r.same r = true := (Role.same_iff_key hr).mpr rfl
  induction bs with
  | nil => simp [Bindings.put, Bindings.erase, hself]
  | cons e rest ih =>
    rw [Bindings.put]
    split
    · next he => simp [Bindings.erase, he]
    · next he =>
      rw [Bindings.erase, List.filter_cons_of_pos (by simpa using he)]
      exact (congrArg (e :: ·) ih).trans (by simp [Bindings.erase, he])

/-- **A grant** to one or more identities comes to what it should. -/
theorem adds {b : Builder} (hb : b.bindings.Apart) {role : Option Role}
    {ids : List (Option Identity)} (hne : ids ≠ []) (hkeyed : (Call.addIdentity role ids).Keyed) :
    b.Adds role ids := by
  obtain ⟨hrole, hids⟩ := hkeyed
  have hempty : ids.isEmpty = false := by simpa using hne
  have hread := Supply.draw_of_plain (plain_map_ok hids)
  simp only [Supply.Lacks, List.mem_map, Except.ok.injEq, exists_eq_right] at hread
  have hnorole : role = none → b.addIdentity role ids = .error (.rejected .nullRole) := by
    rintro rfl
    simp [addIdentity, hempty]
  have hmissing : role ≠ none → none ∈ ids →
      b.addIdentity role ids = .error (.rejected .nullIdentity) := by
    intro hsome hnone
    obtain ⟨r, rfl⟩ := Option.ne_none_iff_exists'.mp hsome
    simp [addIdentity, hempty, ← Supply.draw_fst, hread.1 hnone]
  have hadded : ∀ r, role = some r → none ∉ ids →
      ∃ bs, b.addIdentity role ids = .ok { b with bindings := bs } ∧
        (∀ r' i, bs.Holds r' i ↔ b.bindings.Holds r' i ∨
          r.same r' = true ∧ ∃ j, some j ∈ ids ∧ j.same i = true) ∧
        bs.erase r = b.bindings.erase r := by
    rintro r rfl hnone
    have hr : r.hashable = true := hrole r rfl
    have hgiven : ∀ i ∈ Supply.given (ids.map .ok), i.hashable = true := fun i hi =>
      hids i (by simpa using Supply.mem_given.mp hi)
    have hms := Members.Sound.union hgiven Members.Sound.nil
    refine ⟨b.bindings.grant r (Members.union [] (Supply.given (ids.map .ok))), ?_, fun r' i => ?_,
      erase_put hr _ _⟩
    · simp [addIdentity, hempty, ← Supply.draw_fst, hread.2 hnone, hr]
    · rw [Bindings.holds_grant hb hr hms.hashable, Members.has_union_nil hgiven, Members.has_iff]
      simp [Supply.mem_given]
  refine ⟨⟨fun h => ?_, fun h => ?_⟩, hnorole, hmissing, hadded⟩
  · obtain ⟨c, hc⟩ := h
    by_contra hno
    obtain ⟨hsome, hnone⟩ := not_or.mp hno
    obtain ⟨r, rfl⟩ := Option.ne_none_iff_exists'.mp hsome
    obtain ⟨bs, hadd, -⟩ := hadded r rfl hnone
    rw [hadd] at hc
    cases hc
  · by_cases hsome : role = none
    · exact ⟨_, hnorole hsome⟩
    · exact ⟨_, hmissing hsome (h.resolve_left hsome)⟩

/-- **Calls that insert.** On every builder: to set no bindings is rejected; bindings as a map has
them, whose sets can be read, are rejected if and as their first entry that breaks a rule says, with
nothing read after it, and otherwise replace all bindings; and a grant is rejected if and as a
missing role or identity says, and otherwise adds its identities and changes no other role. -/
theorem insertions {b : Builder} (hb : b.build.Built) :
    b.setBindings none = .error (.rejected .nullBindings) ∧
      (∀ gs : Grants, gs.Plain → b.Replaces gs ∧ (b.drawBindings gs).1 = b.setBindings (some gs)) ∧
      ∀ role ids, ids ≠ [] → (Call.addIdentity role ids).Keyed → b.Adds role ids :=
  ⟨rfl, fun gs hgs => ⟨b.replaces hgs, b.drawBindings_fst gs⟩,
    fun _ _ hne hkeyed => adds hb.apart hne hkeyed⟩

/-- New bindings in which an identity is missing, and then a role; and the same up to there, with an
identity that is given twice and a set without any. -/
theorem insertions_first_of_two :
    let ann : Identity := ⟨.user, .text "ann@example.com"⟩
    let bob : Identity := ⟨.user, .text "bob@example.com"⟩
    let b := run {} [.addIdentity (some Role.owner) [some bob], .setEtag (.text "tag")]
    let before : Grants := [(some Role.viewer, some [.ok (some ann), .ok (some ann)]),
      (some Role.owner, some [])]
    let missing : Option Role × Option Supply := (some Role.editor, some [.ok none, .ok (some bob)])
    let after : Grants := [(none, some [.ok (some bob)])]
    b.build.Built ∧ Grants.Plain (before ++ missing :: after) ∧ before.Plain ∧
      b.setBindings (some (before ++ missing :: after)) = .error (.rejected .nullIdentity) ∧
      (b.drawBindings (before ++ missing :: after)).2 =
        [(some Role.viewer, some []), (some Role.owner, some []), (some Role.editor, some [])]
          ++ after ∧
      (∃ e, List.Forall₂ Renders [(some Role.viewer, some [.ok (some ann), .ok (some ann)])] [e] ∧
        b.setBindings (some before) = .ok { b with bindings := [e] }) ∧
      b.addIdentity none [none] = .error (.rejected .nullRole) := by
  intro ann bob b before missing after
  have hb : b.build.Built := @Policy.Built.run .roles none .null .null {} rfl _
  have hplain : Grants.Plain (before ++ missing :: after) := by
    constructor
    · refine ⟨?_, ?_, ?_⟩
      · have hdiffer : Role.viewer.same Role.owner = false ∧
            Role.viewer.same Role.editor = false ∧ Role.owner.same Role.editor = false := by
          with_unfolding_all decide
        simpa [before, missing, after, and_assoc] using hdiffer
      · simp [before, missing, after, Role.hashable, Role.viewer, Role.owner, Role.editor,
          Value.hashable]
      · simp [before, missing, after, ann, bob, Identity.hashable, Value.hashable]
    · simp [before, missing, after]
  have hbefore : ∀ x ∈ before, IsWhole x := by
    rintro x hx c (_ | _ | @⟨r, s, hlacks⟩)
    · simp [before] at hx
    · simp [before] at hx
    · obtain ⟨-, rfl⟩ | ⟨-, rfl⟩ : _ ∨ _ := by simpa [before] using hx
      all_goals simp [Supply.Lacks] at hlacks
  have hbreaks : Breaks missing .nullIdentity := .identity _ (by simp [Supply.Lacks])
  obtain ⟨-, hset, hadd⟩ := insertions hb
  obtain ⟨hleft, hsay⟩ := (hset _ hplain).1.first before missing after _ rfl hbefore hbreaks
  obtain ⟨bs, hbs, hrenders⟩ := (hset before hplain.of_append).1.bound hbefore
  have hadds := hadd none [none] (by simp) (by simp [Call.Keyed])
  refine ⟨hb, hplain, hplain.of_append, hsay after, hleft, ?_, hadds.no_role rfl⟩
  obtain ⟨e, rest, he, hrest, rfl⟩ := List.forall₂_cons_left_iff.mp hrenders
  obtain rfl : rest = [] := by simpa [hasItems] using hrest
  exact ⟨e, .cons he .nil, hbs⟩

end Builder

end AccessPolicy
