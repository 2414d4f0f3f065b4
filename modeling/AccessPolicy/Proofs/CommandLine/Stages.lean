import AccessPolicy.CommandLine.Run
import AccessPolicy.Proofs.Console.Printing
import AccessPolicy.Proofs.File.Writing
import AccessPolicy.Proofs.Number.Integer
import AccessPolicy.Service.Store

/-!
# How commands end

A command does its work in stages: it looks at the path given, reads a file, asks the service,
writes a file. Then it prints what came of it. A failure of reading and of asking is reported, if it
is one that commands report: a line is printed, and the exit code is that of the failure. A failure
of writing is let through, and so is one of looking at the path: they are the stages that no report
guards.

* `Command.deed` is the work of a command and the texts that it prints, `run_eq_outcome` shows that
  the command runs as its deed ends;
* `Command.run_of_stopped` tells how a command ends whose work is stopped;
* `Command.failure_run` lists the failures that any command lets through.
-/

namespace AccessPolicy.CommandLine

variable {σ : Type}

/-! ### Reported failures -/

/-- Whether a failure is reported by the command that meets it in a guarded stage. -/
def isReported : Failure → Bool
  | .service .. | .interrupted => true
  | e => e.isExpected

/-- The exit code of a command that reports a failure. -/
def exitCode : Failure → Nat
  | .interrupted => 130
  | _ => 1

/-- The markup of the report of a failure. -/
def reportText : Failure → String
  | .service status reason => Console.labelled ("API error (" ++ toString status ++ "):") reason
  | .interrupted => "\n[yellow]Interrupted by user.[/yellow]"
  | e => Console.labelled "Error:" e.message

/-- A stage of the work of a command. -/
inductive Stage where
  /-- The path that is given is looked at. -/
  | path
  /-- A policy file is read. -/
  | reading
  /-- The service is asked, in as many requests as it takes. -/
  | asking
  /-- A policy file is written. -/
  | writing
deriving DecidableEq, Repr

/-- Whether failures of a stage are reported. -/
def Stage.isGuarded : Stage → Bool
  | .reading | .asking => true
  | .path | .writing => false

namespace Outcome

/-- The failure is reported: its exit code is given, its report is all that is printed, and nothing
is let through. -/
structure Reports (o : Outcome σ) (e : Failure) : Prop where
  /-- Nothing is let through. -/
  failure : o.failure = none
  /-- The exit code is that of the failure. -/
  code : o.code = exitCode e
  /-- The report is printed. -/
  output : o.progress.output ≠ "" ∧ Console.printed (reportText e) = .ok o.progress.output

/-- The failure is let through: there is no report. -/
structure LetsThrough (o : Outcome σ) (e : Failure) : Prop where
  /-- It leaves the command. -/
  failure : o.failure = some e
  /-- The exit code is that of a program that breaks off. -/
  code : o.code = 1
  /-- Nothing is printed. -/
  output : o.progress.output = ""

end Outcome

/-! ### Deeds -/

/-- What a command does but for printing. -/
structure Deed (σ : Type) where
  /-- The service after the work. -/
  world : World σ
  /-- The files after the work. -/
  files : FileTree
  /-- The texts that come of it, in the order in which they are printed, each of which may turn out
  to be unfit; or the stage that stops the work, and the failure. -/
  result : Except (Stage × Failure) (List (Except Failure String))

/-- The texts that show a policy. -/
def policyTexts (resource : String) (p : Policy) : List (Except Failure String) :=
  match p.encode with
  | .error e => [.error e]
  | .ok document =>
    [(bindingTable resource document).printed, (summary p).bind Console.printed]

/-- The texts that show which permissions are granted. There is no looking for a text among values
that cannot be hashed. -/
def permissionTexts (granted : List Value) (permissions : List String) :
    List (Except Failure String) :=
  if granted.all Value.hashable then permissions.map fun p => Console.printed
    ((if granted.any (·.same (.text p)) then "[green]✓[/green] " else "[red]✗[/red] ") ++ p)
  else [.error .wrongKind]

/-- The deed of asking the service and showing the answer. -/
def Deed.ofAnswer {α : Type} (files : FileTree) (texts : α → List (Except Failure String)) :
    World σ × Except Failure α → Deed σ
  | (w, .ok a) => ⟨w, files, .ok (texts a)⟩
  | (w, .error e) => ⟨w, files, .error (.asking, e)⟩

/-- The deed of writing the policy that the service gives to a file. -/
def Deed.ofSaved (files : FileTree) (path : String) : World σ × Except Failure Policy → Deed σ
  | (w, .error e) => ⟨w, files, .error (.asking, e)⟩
  | (w, .ok p) => match Policy.save files p path with
    | (files, .error e) => ⟨w, files, .error (.writing, e)⟩
    | (files, .ok saved) =>
      ⟨w, files, .ok [Console.printed ("[green]Saved policy to:[/green] " ++ saved)]⟩

namespace Deed

section Answers

variable {α : Type} (files : FileTree) (texts : α → List (Except Failure String))
  (answer : World σ × Except Failure α)

@[simp] theorem world_ofAnswer : (ofAnswer files texts answer).world = answer.1 := by
  obtain ⟨w, a | a⟩ := answer <;> rfl

theorem result_ofAnswer_of_ok {a : α} (h : answer.2 = .ok a) :
    (ofAnswer files texts answer).result = .ok (texts a) := by
  obtain ⟨w, answer⟩ := answer
  obtain rfl : answer = .ok a := h
  rfl

end Answers

/-- Writing a file is nothing to the service. -/
@[simp] theorem world_ofSaved (files : FileTree) (path : String)
    (answer : World σ × Except Failure Policy) : (ofSaved files path answer).world = answer.1 := by
  obtain ⟨w, a | p⟩ := answer
  · rfl
  · dsimp only [ofSaved]
    generalize Policy.save files p path = written
    obtain ⟨files', a | saved⟩ := written <;> rfl

/-- What the policy that the service gives is written to. -/
theorem files_ofSaved_of_ok {files files' : FileTree} {path : String}
    {answer : World σ × Except Failure Policy} {p : Policy} (h : answer.2 = .ok p)
    {saved : Except Failure String} (hsave : Policy.save files p path = (files', saved)) :
    (ofSaved files path answer).files = files' := by
  obtain ⟨w, answer⟩ := answer
  obtain rfl : answer = .ok p := h
  dsimp only [ofSaved]
  rw [hsave]
  cases saved <;> rfl

end Deed

/-- The deed of a command. -/
def Command.deed [Service σ] (w : World σ) (files : FileTree) : Command → Deed σ
  | version =>
    ⟨w, files, .ok [Console.printed
      ("pdum_iam version: [bold green]" ++ programVersion ++ "[/bold green]")]⟩
  | showPolicy resource =>
    .ofAnswer files (policyTexts resource) (Admin.getPolicy w (.text resource) none .null)
  | addBinding resource role members =>
    .ofAnswer files (fun p => Console.printed ("[green]Granted[/green] " ++ role ++ " to "
        ++ toString members.length ++ " member(s) on " ++ resource) :: policyTexts resource p)
      (Admin.addBinding w (.text resource) none (.named (.text role))
        (members.map fun m => .member (.text m)))
  | removeBinding resource role members =>
    .ofAnswer files (fun p => Console.printed ("[green]Revoked[/green] " ++ role ++ " from "
        ++ toString members.length ++ " member(s) on " ++ resource) :: policyTexts resource p)
      (Admin.removeBinding w (.text resource) none (.named (.text role))
        (members.map fun m => .member (.text m)))
  | exportPolicy resource path => match FileTree.badPath? path with
    | some e => ⟨w, files, .error (.path, e)⟩
    | none => .ofSaved files path (Admin.getPolicy w (.text resource) none .null)
  | applyPolicy resource path => match FileTree.badPath? path with
    | some e => ⟨w, files, .error (.path, e)⟩
    | none => match Policy.load files (Path.parse path).text with
      | .error e => ⟨w, files, .error (.reading, e)⟩
      | .ok p => .ofAnswer files (policyTexts resource) (Admin.setPolicy w (.text resource) none p)
  | testPermissions resource permissions =>
    .ofAnswer files (permissionTexts · permissions)
      (Admin.testPermissions w (.text resource) none (.list (permissions.map .text)))

/-- The end of a command that prints texts in turn. The first that is unfit ends it. -/
def Progress.finish (s : Progress σ) : List (Except Failure String) → Outcome σ
  | [] => ⟨s, 0, none⟩
  | .ok text :: rest => { s with output := s.output ++ text : Progress σ }.finish rest
  | .error e :: _ => ⟨s, 1, some e⟩

/-- The end of a command that meets a failure in a guarded stage. -/
def Progress.stop (s : Progress σ) (e : Failure) : Outcome σ :=
  if isReported e then match Console.printed (reportText e) with
    | .ok line => ⟨{ s with output := s.output ++ line }, exitCode e, none⟩
    | .error e => ⟨s, 1, some e⟩
  else ⟨s, 1, some e⟩

/-- How a deed ends. -/
def Deed.outcome (d : Deed σ) : Outcome σ :=
  let s : Progress σ := { world := d.world, files := d.files }
  match d.result with
  | .ok texts => s.finish texts
  | .error (stage, e) => if stage.isGuarded then s.stop e else ⟨s, 1, some e⟩

/-! ### Commands end as their deeds do -/

namespace Work

/-- The end of a command with some work left to do. -/
def ends (work : Work σ Unit) (s : Progress σ) : Outcome σ :=
  match work s with
  | .ok () s => ⟨s, 0, none⟩
  | .error (.exit code) s => ⟨s, code, none⟩
  | .error (.failed e) s => ⟨s, 1, some e⟩

/-- Printing a text, and texts after it. -/
private theorem ends_emit {text : Except Failure String} {work : Work σ Unit}
    {texts : List (Except Failure String)} (h : ∀ s, work.ends s = s.finish texts)
    (s : Progress σ) : ends (do emit text; work) s = s.finish (text :: texts) := by
  cases text with
  | ok text => exact h _
  | error e => rfl

private theorem ends_emit_last (text : Except Failure String) (s : Progress σ) :
    ends (emit text) s = s.finish [text] := by
  cases text with
  | ok text => rfl
  | error e => rfl

/-- Printing a report and going. -/
private theorem ends_printAndExit {α : Type} (markup : String) (code : Nat) (next : α → Work σ Unit)
    (s : Progress σ) : ends (do let a ← printAndExit markup code; next a) s =
      match Console.printed markup with
      | .ok line => ⟨{ s with output := s.output ++ line }, code, none⟩
      | .error e => ⟨s, 1, some e⟩ := by
  unfold printAndExit print
  cases Console.printed markup with
  | ok line => rfl
  | error e => rfl

/-- The report of a failure that is neither an answer of the service nor an interruption. -/
private theorem report_of_ne {e : Failure} (hservice : ∀ status reason, e ≠ .service status reason)
    (hinterrupted : e ≠ .interrupted) : isReported e = e.isExpected ∧
      reportText e = Console.labelled "Error:" e.message ∧ exitCode e = 1 := by
  cases e with
  | service status reason => exact absurd rfl (hservice status reason)
  | interrupted => exact absurd rfl hinterrupted
  | _ => exact ⟨rfl, rfl, rfl⟩

/-- A failure in a guarded stage. -/
private theorem ends_report {α : Type} (e : Failure) (next : α → Work σ Unit) (s : Progress σ) :
    ends (do let a ← report e; next a) s = s.stop e := by
  have hstop : isReported e = true → s.stop e =
      ends (do let a ← printAndExit (reportText e) (exitCode e); next a) s := by
    intro he
    rw [Progress.stop, if_pos he, ends_printAndExit]
  unfold report
  split
  · next status reason =>
    have htext : "[bold red]API error (" ++ toString status ++ "):[/bold red] " ++
        Console.Markup.escape reason = reportText (.service status reason) :=
      String.toList_inj.mp (by simp [reportText, Console.labelled])
    rw [hstop rfl, htext]
    dsimp only [exitCode]
  · rw [hstop rfl]
    dsimp only [exitCode, reportText]
  · next hservice hinterrupted =>
    obtain ⟨hreported, htext, hcode⟩ := report_of_ne hservice hinterrupted
    rw [← hreported]
    cases he : isReported e with
    | true =>
      have hlabelled : "[bold red]Error:[/bold red] " ++ Console.Markup.escape e.message =
          Console.labelled "Error:" e.message := String.toList_inj.mp (by simp [Console.labelled])
      rw [hstop he, if_pos rfl, hlabelled, htext, hcode]
    | false =>
      rw [Progress.stop, he]
      rfl

/-- Work with the service, and work that goes on with its answer. -/
private theorem ends_ask {α : Type} (asked : World σ → World σ × Except Failure α)
    (next : α → Work σ Unit) (s : Progress σ) :
    ends (do let a ← ask asked; next a) s = match asked s.world with
      | (w, .ok a) => ends (next a) { s with world := w }
      | (w, .error e) => { s with world := w : Progress σ }.stop e := by
  have hbind : ends (do let a ← ask asked; next a) s =
      ends (do let a ← settled (asked s.world).2; next a) { s with world := (asked s.world).1 } :=
    rfl
  rw [hbind]
  obtain ⟨w, answer⟩ := asked s.world
  cases answer with
  | ok a => rfl
  | error e => exact ends_report e next _

private theorem ends_get (next : Progress σ → Work σ Unit) (s : Progress σ) :
    ends (do let s ← get; next s) s = ends (next s) s := rfl

private theorem ends_settled {α : Type} (r : Except Failure α) (next : α → Work σ Unit)
    (s : Progress σ) : ends (do let a ← settled r; next a) s = match r with
      | .ok a => ends (next a) s
      | .error e => s.stop e := by
  cases r with
  | ok a => rfl
  | error e => exact ends_report e next s

end Work

open Work

private theorem ends_printPolicy (resource : String) (p : Policy) (s : Progress σ) :
    ends (printPolicy resource p) s = s.finish (policyTexts resource p) := by
  unfold printPolicy policyTexts
  cases hencode : p.encode with
  | ok document => exact ends_emit (ends_emit_last _) s
  | error e => rfl

private theorem ends_printPermissions (granted : List Value) (permissions : List String)
    (s : Progress σ) : ends (printPermissions granted permissions) s =
      s.finish (permissions.map fun p => Console.printed ((if granted.any (·.same (.text p))
        then "[green]✓[/green] " else "[red]✗[/red] ") ++ p)) := by
  induction permissions generalizing s with
  | nil => rfl
  | cons p rest ih => exact ends_emit ih s

private theorem ends_checkPath (path : String) (next : Work σ Unit) (s : Progress σ) :
    ends (do checkPath path; next) s = match FileTree.badPath? path with
      | some e => ⟨s, 1, some e⟩
      | none => ends next s := by
  unfold checkPath
  cases FileTree.badPath? path <;> rfl

/-- Work on the files whose failures are let through. -/
private theorem ends_demanded {α : Type} (done : FileTree → FileTree × Except Failure α)
    (next : α → Work σ Unit) (s : Progress σ) :
    ends (do
        let a ← (do
          let r ← modifyGet fun s => let (t, r) := done s.files; (r, { s with files := t })
          demanded r)
        next a) s =
      match done s.files with
      | (files, .ok a) => ends (next a) { s with files }
      | (files, .error e) => ⟨{ s with files }, 1, some e⟩ := by
  have hbind : ends (do
        let a ← (do
          let r ← modifyGet fun s => let (t, r) := done s.files; (r, { s with files := t })
          demanded r)
        next a) s =
      ends (do let a ← demanded (done s.files).2; next a) { s with files := (done s.files).1 } :=
    rfl
  rw [hbind]
  obtain ⟨files, r⟩ := done s.files
  cases r <;> rfl

private theorem ends_save (p : Policy) (path : String) (next : String → Work σ Unit)
    (s : Progress σ) : ends (do let saved ← save p path; next saved) s =
      match Policy.save s.files p path with
      | (files, .ok saved) => ends (next saved) { s with files }
      | (files, .error e) => ⟨{ s with files }, 1, some e⟩ := by
  have hsave := ends_demanded (fun t => Policy.save t p path) next s
  dsimp only at hsave
  rw [save, hsave]
  generalize Policy.save s.files p path = r
  obtain ⟨files, r⟩ := r
  cases r <;> rfl

/-- Asking the service and showing the answer. -/
private theorem ends_ask_eq {α : Type} {asked : World σ → World σ × Except Failure α}
    {next : α → Work σ Unit} {texts : α → List (Except Failure String)}
    (hnext : ∀ a s, ends (next a) s = s.finish (texts a)) (w : World σ) (files : FileTree) :
    ends (do let a ← ask asked; next a) { world := w, files } =
      (Deed.ofAnswer files texts (asked w)).outcome := by
  rw [ends_ask]
  dsimp only
  cases asked w with
  | mk w answer =>
    cases answer with
    | ok a => exact hnext a _
    | error e => rfl

/-- **Deeds.** A command runs as its deed ends. -/
theorem Command.run_eq_outcome [Service σ] (c : Command) (w : World σ) (files : FileTree) :
    c.run w files = (c.deed w files).outcome := by
  have hends : c.run w files = c.work.ends { world := w, files } := by
    unfold Command.run ends
    split <;> simp_all
  rw [hends]
  cases c with
  | version =>
    rw [Command.work, print, ends_emit_last]
    dsimp only [Command.deed, Deed.outcome]
  | showPolicy resource => exact ends_ask_eq (ends_printPolicy resource) w files
  | addBinding resource role members =>
    rw [Command.work, Command.deed]
    exact ends_ask_eq (fun p => ends_emit (ends_printPolicy resource p)) w files
  | removeBinding resource role members =>
    rw [Command.work, Command.deed]
    exact ends_ask_eq (fun p => ends_emit (ends_printPolicy resource p)) w files
  | exportPolicy resource path =>
    rw [Command.work, ends_checkPath, Command.deed]
    cases FileTree.badPath? path with
    | some e => rfl
    | none =>
      dsimp only
      rw [ends_ask]
      cases Admin.getPolicy w (.text resource) none .null with
      | mk w answer =>
        cases answer with
        | error e => rfl
        | ok p =>
          dsimp only [Deed.ofSaved]
          rw [ends_save]
          dsimp only
          cases Policy.save files p path with
          | mk files saved =>
            cases saved with
            | ok saved => exact ends_emit_last _ _
            | error e => rfl
  | applyPolicy resource path =>
    rw [Command.work, ends_checkPath, Command.deed]
    cases FileTree.badPath? path with
    | some e => rfl
    | none =>
      dsimp only
      rw [ends_get, ends_settled]
      cases Policy.load files (Path.parse path).text with
      | error e => rfl
      | ok p => exact ends_ask_eq (ends_printPolicy resource) w files
  | testPermissions resource permissions =>
    rw [Command.work, Command.deed]
    refine ends_ask_eq (fun granted s => ?_) w files
    unfold permissionTexts
    split
    · exact ends_printPermissions granted permissions s
    · rfl

/-- Printing changes neither the service nor the files. -/
private theorem progress_finish (s : Progress σ) (texts : List (Except Failure String)) :
    (s.finish texts).progress.world = s.world ∧ (s.finish texts).progress.files = s.files := by
  induction texts generalizing s with
  | nil => exact ⟨rfl, rfl⟩
  | cons text rest ih =>
    cases text with
    | ok text => exact ih _
    | error e => exact ⟨rfl, rfl⟩

/-- What a command leaves is what its work leaves. -/
theorem Command.progress_run [Service σ] (c : Command) (w : World σ) (files : FileTree) :
    (c.run w files).progress.world = (c.deed w files).world ∧
      (c.run w files).progress.files = (c.deed w files).files := by
  rw [run_eq_outcome, Deed.outcome]
  cases (c.deed w files).result with
  | ok texts => exact progress_finish _ texts
  | error stopped =>
    dsimp only
    split
    · unfold Progress.stop
      split
      · split <;> exact ⟨rfl, rfl⟩
      · exact ⟨rfl, rfl⟩
    · exact ⟨rfl, rfl⟩

/-! ### Reports can be printed -/

/-- Whether a character can stand in a label. -/
private def fitsLabel (c : Char) : Bool := c != '\\' && c != '[' && !Text.isHalf c

private theorem fitsLabel_of_isDigit {c : Char} (h : c.isDigit = true) : fitsLabel c = true := by
  rw [Char.isDigit_iff_toNat] at h
  have hlow : c.toNat ≤ 57 := h.2
  have hhalf : Text.isHalf c = false := by
    simp only [Text.isHalf, Text.isHalfPoint, Bool.and_eq_false_iff,
      decide_eq_false_iff_not]
    omega
  have hne : ∀ d : Char, 57 < d.toNat → c ≠ d := by
    rintro d hd rfl
    omega
  simp [fitsLabel, hhalf, hne '\\' (by decide), hne '[' (by decide)]

private theorem all_fitsLabel (status : Int) :
    ("API error (" ++ toString status ++ "):").toList.all fitsLabel = true := by
  have hstatus : (toString status).toList.all fitsLabel = true := by
    refine List.all_eq_true.mpr fun c hc => ?_
    rcases Numeral.mem_toString hc with rfl | hdigit
    · decide
    · exact fitsLabel_of_isDigit hdigit
  have hstart : "API error (".toList.all fitsLabel = true := by decide
  have hend : "):".toList.all fitsLabel = true := by decide
  simp only [String.toList_append, List.all_append, hstart, hstatus, hend, Bool.and_true]

private theorem printed_labelled_of_all {label : String} (hne : label.toList ≠ [])
    (hlabel : label.toList.all fitsLabel = true) (message : String) :
    (∃ line, line ≠ "" ∧ Console.printed (Console.labelled label message) = .ok line) ∨
      Console.printed (Console.labelled label message) = .error .halfCharacter ∧
        Text.isWhole message.toList = false := by
  have hfits : ∀ c ∈ label.toList, (c ≠ '\\' ∧ c ≠ '[') ∧ Text.isHalf c = false := by
    intro c hc
    simpa [fitsLabel] using List.all_eq_true.mp hlabel c hc
  have hwhole : Text.isWhole label.toList = true := by
    simpa [Text.isWhole] using fun c hc => (hfits c hc).2
  refine (Console.printed_labelled hne (fun c hc => (hfits c hc).1) message).imp_right ?_
  rintro ⟨herror, hnot⟩
  exact ⟨herror, by simpa [hwhole] using hnot⟩

/-- **Reports** can be printed unless the message holds a half of a pair. -/
theorem printed_reportText (e : Failure) :
    (∃ line, line ≠ "" ∧ Console.printed (reportText e) = .ok line) ∨
      Console.printed (reportText e) = .error .halfCharacter ∧
        Text.isWhole e.message.toList = false := by
  unfold reportText
  split
  · exact printed_labelled_of_all (by simp) (all_fitsLabel _) _
  · left
    have hprinted : (Console.printed "\n[yellow]Interrupted by user.[/yellow]").toOption =
        some "\nInterrupted by user.\n" := by decide +kernel
    cases hline : Console.printed "\n[yellow]Interrupted by user.[/yellow]" with
    | ok line =>
      obtain rfl : line = "\nInterrupted by user.\n" := by
        simpa [hline, Except.toOption] using hprinted
      exact ⟨_, by decide, rfl⟩
    | error e => simp [hline, Except.toOption] at hprinted
  · exact printed_labelled_of_all (by decide) (by decide) _

/-! ### The end of a command -/

/-- The failures that a command lets through. -/
inductive Command.Leaves [Service σ] (c : Command) (w : World σ) (files : FileTree) :
    Failure → Prop
  /-- Those of a path that no file system can hold. -/
  | path {path : String} {e : Failure} : c.path? = some path → FileTree.badPath? path = some e →
      Leaves c w files e
  /-- Those of writing the policy that is exported. -/
  | writing {resource path : String} {p : Policy} {e : Failure} : c = .exportPolicy resource path →
      (Admin.getPolicy w (.text resource) none .null).2 = .ok p →
      (Policy.save files p path).2 = .error e → Leaves c w files e
  /-- Those of the work that commands do not report. -/
  | unreported {stage : Stage} {e : Failure} : (c.deed w files).result = .error (stage, e) →
      isReported e = false → Leaves c w files e
  /-- Halves of pairs in a message that is to be reported. -/
  | report {stage : Stage} {cause : Failure} : (c.deed w files).result = .error (stage, cause) →
      Text.isWhole cause.message.toList = false → Leaves c w files .halfCharacter
  /-- Those of a text that comes of the work and turns out to be unfit. -/
  | unfit {texts : List (Except Failure String)} {e : Failure} :
      (c.deed w files).result = .ok texts → .error e ∈ texts → Leaves c w files e

private theorem isGuarded_of_ofAnswer {α : Type} {files : FileTree}
    {texts : α → List (Except Failure String)} {stage : Stage} {e : Failure}
    {answer : World σ × Except Failure α}
    (h : (Deed.ofAnswer files texts answer).result = .error (stage, e)) :
    stage.isGuarded = true := by
  obtain ⟨w, a | a⟩ := answer
  · obtain ⟨rfl, -⟩ := Prod.mk.inj (Except.error.inj h)
    rfl
  · simp [Deed.ofAnswer] at h

private theorem isGuarded_of_ofSaved {files : FileTree} {path : String} {stage : Stage}
    {e : Failure} {answer : World σ × Except Failure Policy}
    (h : (Deed.ofSaved files path answer).result = .error (stage, e)) :
    stage.isGuarded = true ∨
      ∃ p, answer.2 = .ok p ∧ (Policy.save files p path).2 = .error e := by
  obtain ⟨w, a | p⟩ := answer
  · obtain ⟨rfl, -⟩ := Prod.mk.inj (Except.error.inj h)
    exact .inl rfl
  · refine .inr ⟨p, rfl, ?_⟩
    dsimp only [Deed.ofSaved] at h
    revert h
    generalize Policy.save files p path = saved
    intro h
    obtain ⟨files', r⟩ := saved
    cases r with
    | ok saved => exact absurd h nofun
    | error cause =>
      obtain ⟨-, rfl⟩ := Prod.mk.inj (Except.error.inj h)
      rfl

private theorem mem_of_failure_finish {s : Progress σ} {texts : List (Except Failure String)}
    {e : Failure} (h : (s.finish texts).failure = some e) : .error e ∈ texts := by
  induction texts generalizing s with
  | nil => simp [Progress.finish] at h
  | cons text rest ih =>
    cases text with
    | ok text => exact List.mem_cons_of_mem _ (ih h)
    | error cause =>
      obtain rfl : cause = e := Option.some.inj h
      exact List.mem_cons_self

section Ends

variable [Service σ] {c : Command} {w : World σ} {files : FileTree} {stage : Stage} {e : Failure}

/-- Which stages are not guarded: looking at the path, and the writing of an export. -/
private theorem leaves_of_not_isGuarded (h : (c.deed w files).result = .error (stage, e))
    (hstage : stage.isGuarded = false) : c.Leaves w files e := by
  -- only the commands that are given a path have stages which are not guarded
  have hguarded : stage.isGuarded ≠ true := by simp [hstage]
  cases c with
  | version =>
    rw [Command.deed] at h
    exact absurd h nofun
  | showPolicy resource =>
    rw [Command.deed] at h
    exact absurd (isGuarded_of_ofAnswer h) hguarded
  | addBinding resource role members =>
    rw [Command.deed] at h
    exact absurd (isGuarded_of_ofAnswer h) hguarded
  | removeBinding resource role members =>
    rw [Command.deed] at h
    exact absurd (isGuarded_of_ofAnswer h) hguarded
  | testPermissions resource permissions =>
    rw [Command.deed] at h
    exact absurd (isGuarded_of_ofAnswer h) hguarded
  | exportPolicy resource path =>
    rw [Command.deed] at h
    cases hbad : FileTree.badPath? path with
    | some cause =>
      rw [hbad] at h
      obtain ⟨-, rfl⟩ := Prod.mk.inj (Except.error.inj h)
      exact .path rfl hbad
    | none =>
      rw [hbad] at h
      rcases isGuarded_of_ofSaved h with hstage | ⟨p, hget, hsave⟩
      · exact absurd hstage hguarded
      · exact .writing rfl hget hsave
  | applyPolicy resource path =>
    rw [Command.deed] at h
    cases hbad : FileTree.badPath? path with
    | some cause =>
      rw [hbad] at h
      obtain ⟨-, rfl⟩ := Prod.mk.inj (Except.error.inj h)
      exact .path rfl hbad
    | none =>
      rw [hbad] at h
      dsimp only at h
      cases hload : Policy.load files (Path.parse path).text with
      | error cause =>
        rw [hload] at h
        obtain ⟨rfl, -⟩ := Prod.mk.inj (Except.error.inj h)
        exact absurd rfl hguarded
      | ok p =>
        rw [hload] at h
        exact absurd (isGuarded_of_ofAnswer h) hguarded

/-- An export that cannot be written. -/
private theorem result_of_save_eq_error {resource path : String} {p : Policy}
    (hpath : FileTree.badPath? path = none)
    (hget : (Admin.getPolicy w (.text resource) none .null).2 = .ok p)
    (hsave : (Policy.save files p path).2 = .error e) :
    ((Command.exportPolicy resource path).deed w files).result = .error (.writing, e) := by
  rw [Command.deed, hpath]
  dsimp only
  generalize Admin.getPolicy w (.text resource) none .null = asked at hget ⊢
  obtain ⟨w', answer⟩ := asked
  obtain rfl : answer = .ok p := hget
  dsimp only [Deed.ofSaved]
  generalize Policy.save files p path = written at hsave ⊢
  obtain ⟨files', saved⟩ := written
  obtain rfl : saved = .error e := hsave
  rfl

/-- A failure that is not reported. -/
private theorem letsThrough_of_stopped (h : (c.deed w files).result = .error (stage, e))
    (hnot : stage.isGuarded = false ∨ isReported e = false) : (c.run w files).LetsThrough e := by
  rw [Command.run_eq_outcome, Deed.outcome, h]
  dsimp only
  split
  · next hguarded =>
    have hreported : isReported e = false := by simpa [hguarded] using hnot
    simp only [Progress.stop, hreported]
    exact ⟨rfl, rfl, rfl⟩
  · exact ⟨rfl, rfl, rfl⟩

/-- A failure that is reported, if the report can be printed. -/
private theorem run_eq_of_guarded (h : (c.deed w files).result = .error (stage, e))
    (hguarded : stage.isGuarded = true) (hreported : isReported e = true) :
    (∃ line, line ≠ "" ∧ Console.printed (reportText e) = .ok line ∧ c.run w files =
        ⟨{ world := (c.deed w files).world, files := (c.deed w files).files, output := line },
          exitCode e, none⟩) ∨
      Text.isWhole e.message.toList = false ∧ (c.run w files).failure = some .halfCharacter := by
  rw [Command.run_eq_outcome, Deed.outcome, h]
  dsimp only
  rw [if_pos hguarded, Progress.stop, if_pos hreported]
  rcases printed_reportText e with ⟨line, hne, hline⟩ | ⟨herror, hhalf⟩
  · exact .inl ⟨line, hne, hline, by rw [hline]; simp⟩
  · exact .inr ⟨hhalf, by rw [herror]⟩

end Ends

/-- **Failures are reported in guarded stages.** A failure of reading a policy file or of asking the
service that commands report is reported by every command, with its exit code, as long as its
message can be printed at all. Any other failure of the work is let through, and besides such
failures of the work only halves of pairs in a message and texts that cannot be printed leave a
command: of the stages, only the look at a path and the writing of an export are not guarded. -/
theorem Command.run_reports [Service σ] (c : Command) (w : World σ) (files : FileTree) :
    (∀ stage e, (c.deed w files).result = .error (stage, e) → stage.isGuarded = true →
      isReported e = true → Text.isWhole e.message.toList = true → (c.run w files).Reports e) ∧
    (∀ stage e, (c.deed w files).result = .error (stage, e) →
      stage.isGuarded = false ∨ isReported e = false → (c.run w files).LetsThrough e) ∧
    ∀ e, (c.run w files).failure = some e → c.Leaves w files e := by
  refine ⟨fun stage e h hguarded hreported hwhole => ?_, fun stage e h hnot =>
    letsThrough_of_stopped h hnot, fun e hfailure => ?_⟩
  · rcases run_eq_of_guarded h hguarded hreported with ⟨line, hne, hline, hrun⟩ | ⟨hhalf, -⟩
    · rw [hrun]
      exact ⟨rfl, rfl, hne, hline⟩
    · simp [hwhole] at hhalf
  · cases hresult : (c.deed w files).result with
    | ok texts =>
      rw [run_eq_outcome, Deed.outcome, hresult] at hfailure
      exact .unfit hresult (mem_of_failure_finish hfailure)
    | error stopped =>
      obtain ⟨stage, cause⟩ := stopped
      by_cases hboth : stage.isGuarded = true ∧ isReported cause = true
      · rcases run_eq_of_guarded hresult hboth.1 hboth.2 with ⟨line, -, -, hrun⟩ | ⟨hhalf, hleaves⟩
        · simp [hrun] at hfailure
        · obtain rfl : Failure.halfCharacter = e := Option.some.inj (hleaves ▸ hfailure)
          exact .report hresult hhalf
      · have hnot : stage.isGuarded = false ∨ isReported cause = false := by
          simpa only [Bool.not_eq_true, not_and_or] using hboth
        obtain rfl : cause = e :=
          Option.some.inj ((letsThrough_of_stopped hresult hnot).failure ▸ hfailure)
        exact hnot.elim (leaves_of_not_isGuarded hresult) (.unreported hresult)

/-- Whether a policy is not read for a value of a wrong kind. -/
private def isWrongKind : Except Failure Policy → Bool
  | .error .wrongKind => true
  | _ => false

private theorem eq_of_isWrongKind {r : Except Failure Policy} (h : isWrongKind r = true) :
    r = .error .wrongKind := by
  unfold isWrongKind at h
  split at h
  · rfl
  · simp at h

/-- A resource of no kind that has policies, and a file that is not there: the failures are
reported, with exit code one. A file with a list as its version: the failure is let through. -/
theorem Command.run_reports_expected :
    let w : World Store := { service := {}, ambient := some "me" }
    let c : Command := .applyPolicy "projects/p" "f"
    let files : FileTree := { entries := [(["f"], .file "version: []".toUTF8.toList)] }
    ((Command.showPolicy "x").run w {}).Reports (.unsupportedResource "x") ∧
      (c.run w {}).Reports (.file .missing "f") ∧
      (c.run w files).LetsThrough .wrongKind ∧ c.Leaves w files .wrongKind := by
  intro w c files
  have hasked : ((Command.showPolicy "x").deed w {}).result =
      .error (.asking, .unsupportedResource "x") := rfl
  have hmissing : (c.deed w {}).result = .error (.reading, .file .missing "f") := by
    with_unfolding_all rfl
  have hlist : (c.deed w files).result = .error (.reading, .wrongKind) := by
    have hload : Policy.load files "f" = .error .wrongKind :=
      eq_of_isWrongKind (by decide +kernel)
    have hbad : FileTree.badPath? "f" = none := rfl
    have hpath : (Path.parse "f").text = "f" := rfl
    simp only [c, Command.deed, hbad, hpath, hload]
  have hthrough := (c.run_reports w files).2.1 _ _ hlist (.inr rfl)
  exact ⟨((Command.showPolicy "x").run_reports w {}).1 _ _ hasked rfl rfl (by decide),
    (c.run_reports w {}).1 _ _ hmissing rfl rfl (by decide), hthrough,
    (c.run_reports w files).2.2 _ hthrough.failure⟩

/-- What a result that can be computed is known to be. -/
theorem exists_of_any {ε α : Type} {r : Except ε α} {f : α → Bool}
    (h : r.toOption.any f = true) : ∃ a, r = .ok a ∧ f a = true := by
  cases r with
  | ok a => exact ⟨a, rfl, h⟩
  | error e => simp [Except.toOption] at h

/-- A directory with a directory in it. -/
private def withDirectory : FileTree := { entries := [(["d"], .directory)] }

private theorem save_onto_directory (p : Policy) :
    Policy.save withDirectory p "d" = (withDirectory, .error (.file .isDirectory "d")) := by
  have hparse : Path.parse "d" = ⟨"", ["d"]⟩ := rfl
  have htext : Path.text ⟨"", ["d"]⟩ = "d" := by decide
  have hparent : Path.parent ⟨"", ["d"]⟩ = ⟨"", []⟩ := rfl
  have hwrite : withDirectory.write "d" [] = .error (.file .isDirectory "d") := by
    with_unfolding_all rfl
  have hhere := FileTree.makeDirectories_here withDirectory
  unfold Policy.save
  rw [hparse]
  dsimp only
  rw [hparent, hhere]
  dsimp only
  rw [htext, hwrite]

/-- An export onto a directory: the failure to write is one that commands report, but it is let
through, and nothing is printed. -/
theorem Command.export_onto_directory :
    let c : Command := .exportPolicy "projects/p" "d"
    let w : World Store := { service := {}, ambient := some "me" }
    let files : FileTree := { entries := [(["d"], .directory)] }
    let e : Failure := .file .isDirectory "d"
    (c.deed w files).result = .error (.writing, e) ∧ isReported e = true ∧
      (c.run w files).failure = some e ∧ (c.run w files).progress.output = "" ∧
      ¬(c.run w files).Reports e := by
  intro c w files e
  have hok : ((Admin.getPolicy w (.text "projects/p") none .null).2.toOption.any
      fun _ => true) = true := rfl
  obtain ⟨p, hp, -⟩ := exists_of_any hok
  have hresult : (c.deed w files).result = .error (.writing, e) :=
    result_of_save_eq_error (by decide) hp (congrArg Prod.snd (save_onto_directory p))
  have hleaves := letsThrough_of_stopped hresult (.inl rfl)
  refine ⟨hresult, rfl, hleaves.failure, hleaves.output, fun hreports => ?_⟩
  have hfailure := hreports.failure
  rw [hleaves.failure] at hfailure
  simp at hfailure

end AccessPolicy.CommandLine
