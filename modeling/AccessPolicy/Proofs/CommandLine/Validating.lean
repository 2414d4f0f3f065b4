import AccessPolicy.Proofs.CommandLine.Stages
import AccessPolicy.Proofs.Service.Credentials

/-!
# Commands that look at their arguments first

A command on the members of a role is a grant or a revocation on the resource of a name, and looks
at its arguments as these do: if one of them is wrong, it fails with nothing done. The command that
stores a policy file reads the file first, and then the name of the resource. After that credentials
are chosen once, for all requests of the command.

* `Errand`: what changes a policy for a caller, by a resource, a name, or a command;
* `Errand.validates`: whichever way it is, arguments come first, then one credential.
-/

namespace AccessPolicy.CommandLine

variable {σ : Type}

/-- What changes a policy for a caller. -/
inductive Errand where
  /-- A grant or a revocation on a resource. -/
  | onResource (a : Petition) (h : Handle) (given : Option Credentials)
  /-- A grant or a revocation on the resource of a name. -/
  | onName (a : Petition) (name : Value) (given : Option Credentials)
  /-- The command for a grant or a revocation. -/
  | byCommand (kind : Amendment.Kind) (resource role : String) (members : List String)
  /-- The command that stores the policy in a file. -/
  | applying (resource path : String)

/-- The command for a grant or a revocation. -/
def Command.amending (resource role : String) (members : List String) :
    Amendment.Kind → Command
  | .grant => .addBinding resource role members
  | .revoke => .removeBinding resource role members

/-- The world after a command, and whether it succeeded. -/
def Outcome.succeeded (o : Outcome σ) : World σ × Bool := (o.progress.world, o.code == 0)

namespace Errand

/-- The world after an errand, and whether it succeeded. -/
def perform [Service σ] (w : World σ) (files : FileTree) : Errand → World σ × Bool
  | onResource a h given => World.succeeded (a.call.run h w given)
  | onName a name given => World.succeeded (a.call.runNamed w name given)
  | byCommand kind resource role members =>
    ((Command.amending resource role members kind).run w files).succeeded
  | applying resource path => ((Command.applyPolicy resource path).run w files).succeeded

/-- The credentials that are known: those that are given, or else stored with the resource. A
command knows none. -/
def known : Errand → Option Credentials
  | onResource _ h given => given.or h.stored
  | onName _ _ given => given
  | byCommand .. | applying .. => none

/-- Whether an argument is wrong: the role, a member or the name of the resource; or the policy file
cannot be read as a policy. -/
def Refused (files : FileTree) : Errand → Prop
  | onResource a _ _ => a.Refused
  | onName a name _ => a.Refused ∨ ∃ e, Resource.ofValue name = .error e
  | byCommand kind resource role members =>
    Petition.Refused ⟨kind, some role, members.map .text⟩ ∨
      ∃ e, Resource.ofValue (.text resource) = .error e
  | applying resource path =>
    (∃ e, FileTree.badPath? path = some e) ∨
      (∃ e, Policy.load files (Path.parse path).text = .error e) ∨
        ∃ e, Resource.ofValue (.text resource) = .error e

end Errand

section

variable [Service σ] {c : Command} {w : World σ} {files : FileTree}

/-- A command whose work is stopped gives an exit code of failure. -/
private theorem succeeded_of_stopped {stopped : Stage × Failure}
    (h : (c.deed w files).result = .error stopped) :
    (c.run w files).succeeded = ((c.deed w files).world, false) := by
  have hcode : (c.run w files).code ≠ 0 := by
    rw [Command.run_eq_outcome, Deed.outcome, h]
    dsimp only
    split
    · unfold Progress.stop
      split
      · split
        · unfold exitCode
          split <;> simp
        · simp
      · simp
    · simp
  rw [Outcome.succeeded, (c.progress_run w files).1]
  simpa using hcode

/-- A command that asks the service and shows the answer validates its arguments if what it asks
does. -/
private theorem validates_of_ofAnswer {α : Type} {texts : α → List (Except Failure String)}
    {answer : World σ × Except Failure α} {refused : Prop} {known : Option Credentials}
    (hdeed : c.deed w files = .ofAnswer files texts answer)
    (h : w.Validates refused known (World.succeeded answer)) :
    w.Validates refused known (c.run w files).succeeded := by
  have hfails : ∀ u, World.succeeded answer = (u, false) →
      (c.run w files).succeeded = (u, false) := by
    intro u hu
    obtain ⟨v, e | a⟩ := answer
    · obtain rfl : v = u := congrArg Prod.fst hu
      have hresult : (c.deed w files).result = .error (.asking, e) := by rw [hdeed]; rfl
      rw [succeeded_of_stopped hresult, hdeed]
      rfl
    · exact absurd (congrArg Prod.snd hu) nofun
  refine ⟨fun hrefused => hfails w (h.stopped hrefused), fun hno => ?_, fun hno hnone =>
    hfails _ (h.unfound hno hnone)⟩
  rw [Outcome.succeeded, (c.progress_run w files).1, hdeed, Deed.world_ofAnswer]
  exact h.carries hno

end

/-- **Arguments first, then one credential.** Whether on a resource, on the resource of a name or by
a command, a grant, a revocation and the storing of a policy file look at all their arguments first.
If one is wrong, they fail, with no request made, no credentials looked up and nothing changed.
Otherwise credentials are chosen once, before the first request: those given, else those stored with
the resource, else the default ones. All requests carry them, over all attempts; and if there are
none, there is no request. -/
theorem Errand.validates [Service σ] (e : Errand) (w : World σ) (files : FileTree) :
    w.Validates (e.Refused files) e.known (e.perform w files) := by
  cases e with
  | onResource a h given => exact a.validates_run h w given
  | onName a name given => exact a.validates_runNamed w given name
  | byCommand kind resource role members =>
    have hnamed := Petition.validates_runNamed ⟨kind, some role, members.map .text⟩ w none
      (.text resource)
    have hmembers : (members.map Value.text).map MemberArgument.member =
        members.map fun m => .member (.text m) := List.map_map
    cases kind with
    | grant =>
      refine validates_of_ofAnswer (c := .addBinding resource role members) rfl ?_
      rw [← hmembers]
      exact hnamed
    | revoke =>
      refine validates_of_ofAnswer (c := .removeBinding resource role members) rfl ?_
      rw [← hmembers]
      exact hnamed
  | applying resource path =>
    rw [Errand.perform]
    cases hpath : FileTree.badPath? path with
    | some cause =>
      have hdeed : (Command.applyPolicy resource path).deed w files =
          ⟨w, files, .error (.path, cause)⟩ := by rw [Command.deed, hpath]
      rw [succeeded_of_stopped (congrArg Deed.result hdeed), hdeed]
      exact .of_refused (.inl ⟨cause, hpath⟩) none
    | none =>
      cases hload : Policy.load files (Path.parse path).text with
      | error cause =>
        have hdeed : (Command.applyPolicy resource path).deed w files =
            ⟨w, files, .error (.reading, cause)⟩ := by
          rw [Command.deed, hpath]
          dsimp only
          rw [hload]
        rw [succeeded_of_stopped (congrArg Deed.result hdeed), hdeed]
        exact .of_refused (.inr (.inl ⟨cause, hload⟩)) none
      | ok p =>
        have hdeed : (Command.applyPolicy resource path).deed w files =
            .ofAnswer files (policyTexts resource)
              (Admin.setPolicy w (.text resource) none p) := by
          rw [Command.deed, hpath]
          dsimp only
          rw [hload]
        have hrefused : Refused files (.applying resource path) ↔
            ∃ e, Resource.ofValue (.text resource) = .error e := by
          simp [Refused, hpath, hload]
        rw [hrefused]
        exact validates_of_ofAnswer hdeed (Admin.validates_setPolicy w (.text resource) none p)

/-- A command whose second member cannot be read, and a grant by the name of a resource whose write
is refused once: its four requests carry the default credentials, which are looked up first. -/
theorem Errand.validates_second_member :
    let w : World Store :=
      { service := { writeFaults := [some (.answer 409 "")] }, ambient := some "me" }
    let bad : Errand := .byCommand .grant "projects/p" "viewer" ["user:ann", "ann"]
    let good : Errand := .onName ⟨.grant, some "viewer", [.text "user:ann"]⟩ (.text "projects/p")
      none
    bad.perform w {} = (w, false) ∧
      World.Carries (some "me") (w.note [.defaultCredentials]) (good.perform w {}).1 ∧
      ((good.perform w {}).1.requestsSince w).length = 4 := by
  intro w bad good
  have hbad : bad.Refused {} :=
    .inl (.member (m := .text "ann") (by simp) (e := .malformedMember "ann") rfl)
  have hgood : ¬ good.Refused {} := by
    have hmember : Identity.ofValue (.text "user:ann") = .ok ⟨.user, .text "ann"⟩ := rfl
    have hname : Resource.ofValue (.text "projects/p") = .ok ⟨.projects, .text "p"⟩ := rfl
    rintro ((h | h | ⟨hm, h⟩) | ⟨e, h⟩)
    · cases h
    · cases h
    · obtain rfl := List.mem_singleton.mp hm
      simp [hmember] at h
    · simp [hname] at h
  exact ⟨(bad.validates w {}).stopped hbad, (good.validates w {}).carries hgood,
    by with_unfolding_all rfl⟩

end AccessPolicy.CommandLine
