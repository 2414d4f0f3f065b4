import AccessPolicy.Proofs.CommandLine.Exhibit
import AccessPolicy.Proofs.CommandLine.Stages
import AccessPolicy.Proofs.Service.Session

/-!
# What commands show

A command that asked the service, and got its answer, has something to show: the policy that it
returned, a line that says what was granted or revoked, or which permissions are held. The texts in
it are given to the console as markup. So they are shown as they are only if they are literal;
otherwise parts of them are left out, or the command fails, even where the service has stored a
change already.

* `Command.Returned`: commands whose service operation returned, and their exhibits;
* `Command.Returned.result_eq`: what is printed are these exhibits, and no more;
* `Outcome.Displays`: what it is to show exhibits as they are;
* `Command.Returned.shows`: when this is so, and where texts stand unbroken.
-/

namespace AccessPolicy.CommandLine

open Console (output)
open Policy (Listing)

/-- The version of a policy, if it is an integer. -/
def versionOf (p : Policy) : Option Int :=
  match p.version with
  | .int n => some n
  | _ => none

/-- What shows a policy: the table of what its document lists, its tag and its version. -/
def policyExhibits (resource : String) (p : Policy) : List Exhibit :=
  [.table resource p.listing, .stamp p.etag (versionOf p)]

/-- What shows which permissions are granted. -/
def permissionExhibits (granted : List Value) (permissions : List String) : List Exhibit :=
  permissions.map fun p => .line (if granted.any (·.same (.text p)) then .held else .lacking) p

section

variable {σ : Type} [Service σ] {w : World σ} {files : FileTree}

/-- The service operation of a command returned, and what the command is to show then. The roles of
the policy that it returned are named by texts; permissions are values that a set can hold. -/
inductive Command.Returned (w : World σ) (files : FileTree) : Command → List Exhibit → Prop
  /-- The policy of the resource was read. -/
  | showPolicy {resource : String} {p : Policy}
    (hanswer : (Admin.getPolicy w (.text resource) none .null).2 = .ok p)
    (hroles : ∀ e ∈ p.bindings, ∃ s, e.1.name = .text s) :
    Returned w files (.showPolicy resource) (policyExhibits resource p)
  /-- The role was granted. -/
  | addBinding {resource role : String} {members : List String} {p : Policy}
    (hanswer : (Admin.addBinding w (.text resource) none (.named (.text role))
      (members.map fun m => .member (.text m))).2 = .ok p)
    (hroles : ∀ e ∈ p.bindings, ∃ s, e.1.name = .text s) :
    Returned w files (.addBinding resource role members)
      (.line .granted (role ++ " to " ++ toString members.length ++ " member(s) on " ++ resource)
        :: policyExhibits resource p)
  /-- The role was revoked. -/
  | removeBinding {resource role : String} {members : List String} {p : Policy}
    (hanswer : (Admin.removeBinding w (.text resource) none (.named (.text role))
      (members.map fun m => .member (.text m))).2 = .ok p)
    (hroles : ∀ e ∈ p.bindings, ∃ s, e.1.name = .text s) :
    Returned w files (.removeBinding resource role members)
      (.line .revoked (role ++ " from " ++ toString members.length ++ " member(s) on " ++ resource)
        :: policyExhibits resource p)
  /-- The policy in the file was stored. -/
  | applyPolicy {resource path : String} {p q : Policy}
    (hpath : FileTree.badPath? path = none)
    (hload : Policy.load files (Path.parse path).text = .ok q)
    (hanswer : (Admin.setPolicy w (.text resource) none q).2 = .ok p)
    (hroles : ∀ e ∈ p.bindings, ∃ s, e.1.name = .text s) :
    Returned w files (.applyPolicy resource path) (policyExhibits resource p)
  /-- The service told which permissions the caller holds. -/
  | testPermissions {resource : String} {permissions : List String} {granted : List Value}
    (hanswer : (Admin.testPermissions w (.text resource) none
      (.list (permissions.map .text))).2 = .ok granted)
    (hgranted : granted.all Value.hashable = true) :
    Returned w files (.testPermissions resource permissions)
      (permissionExhibits granted permissions)

end

/-! ### What is printed when the service returned -/

/-- The table of a document that lists roles with their members. -/
private theorem bindingTable_document (resource : String) (listing : Listing)
    (etag version : Value) :
    bindingTable resource (listing.document etag version) = Exhibit.tableOf resource listing := by
  have hfields : ∃ fields, listing.document etag version = .map fields ∧
      Value.field "bindings" fields = listing.toValue :=
    ⟨_, rfl, by simp [Value.field, Value.field?]⟩
  obtain ⟨fields, hdocument, hbindings⟩ := hfields
  rw [bindingTable, hdocument, bindingRows, hbindings, Listing.toValue, Exhibit.tableOf]
  dsimp only
  rw [List.map_map]
  congr 1
  refine List.map_congr_left fun e _ => ?_
  have hplain : Value.plain ∘ Value.text = id := rfl
  simp [Value.ofFields, Value.field, Value.field?, hplain]

/-- The line under the table of a policy is its stamp, if its version is an integer or null. -/
private theorem printed_summary {p : Policy}
    (hversion : p.version = .null ∨ ∃ n, p.version = .int n) :
    (summary p).bind Console.printed = (Exhibit.stamp p.etag (versionOf p)).printed := by
  have hwritable : p.version.isWritable = (versionOf p).all Numeral.isWritable := by
    rcases hversion with hv | ⟨n, hv⟩ <;> rw [versionOf, hv] <;> simp [Value.isWritable]
  have htext : "[dim]etag: " ++ (if p.etag.truthy then p.etag.plain else "-") ++ "  version: " ++
      (if p.version.isNull then "-" else p.version.plain) ++ "[/dim]" =
        "[dim]" ++ Exhibit.stampText p.etag (versionOf p) ++ "[/dim]" := by
    refine String.toList_inj.mp ?_
    rcases hversion with hv | ⟨n, hv⟩ <;> rw [versionOf, hv] <;>
      simp [Exhibit.stampText, Value.isNull, Value.plain, Value.term, Value.termIn]
  rw [summary, htext, hwritable, Exhibit.printed, Exhibit.isWritable]
  split <;> rfl

/-- The texts that show a policy are those of its exhibits. -/
private theorem policyTexts_eq {resource : String} {p : Policy} (hread : p.IsRead)
    (hroles : ∀ e ∈ p.bindings, ∃ s, e.1.name = .text s) :
    policyTexts resource p = (policyExhibits resource p).map Exhibit.printed := by
  obtain ⟨document, hdecode⟩ := hread
  obtain ⟨fields, -, hfields⟩ := Policy.opened_of_decode hdecode
  -- a policy that was read has an integer or nothing as its version, and canonical members
  have hversion := Policy.decodeVersion_cases (Policy.decode_map_eq_ok_iff.mp hfields).2.1
  have hmembers : ∀ e ∈ p.bindings, ∀ i ∈ e.2, i.Textual := fun e he i hi =>
    (Policy.decode_members_canonical hdecode e he i hi).textual
  rw [policyTexts, Policy.encode_of_texts hroles hmembers, policyExhibits, List.map_cons,
    List.map_singleton]
  dsimp only
  rw [bindingTable_document, printed_summary hversion]
  rfl

/-- The texts that show permissions are those of their exhibits. -/
private theorem permissionTexts_eq {granted : List Value}
    (h : granted.all Value.hashable = true) (permissions : List String) :
    permissionTexts granted permissions =
      (permissionExhibits granted permissions).map Exhibit.printed := by
  rw [permissionTexts, if_pos h, permissionExhibits, List.map_map]
  refine List.map_congr_left fun p _ => congrArg (fun markup => Console.printed (markup ++ p)) ?_
  split <;> rfl

section

variable {σ : Type} [Service σ] {w : World σ} {files : FileTree} {c : Command}
  {exhibits : List Exhibit}

/-- **What a command prints** when the service returned are its exhibits. -/
theorem Command.Returned.result_eq (h : c.Returned w files exhibits) :
    (c.deed w files).result = .ok (exhibits.map Exhibit.printed) := by
  cases h with
  | showPolicy hanswer hroles =>
    have hread := (Admin.performs_getPolicy w _ none .null).gives _ hanswer
    rw [Command.deed, Deed.result_ofAnswer_of_ok _ _ _ hanswer, policyTexts_eq hread hroles]
  | @addBinding resource role members p hanswer hroles =>
    have hread := (Admin.performs_runNamed w (.text resource) none (.add (.named (.text role))
      (members.map fun m => .member (.text m)))).gives p hanswer
    rw [Command.deed, Deed.result_ofAnswer_of_ok _ _ _ hanswer, policyTexts_eq hread hroles]
    simp only [String.append_assoc, List.map_cons, Exhibit.printed, Mark.markup]
  | @removeBinding resource role members p hanswer hroles =>
    have hread := (Admin.performs_runNamed w (.text resource) none (.remove (.named (.text role))
      (members.map fun m => .member (.text m)))).gives p hanswer
    rw [Command.deed, Deed.result_ofAnswer_of_ok _ _ _ hanswer, policyTexts_eq hread hroles]
    simp only [String.append_assoc, List.map_cons, Exhibit.printed, Mark.markup]
  | @applyPolicy resource path p q hpath hload hanswer hroles =>
    have hread := (Admin.performs_runNamed w (.text resource) none (.replace q)).gives p hanswer
    rw [Command.deed, hpath]
    dsimp only
    rw [hload]
    dsimp only
    rw [Deed.result_ofAnswer_of_ok _ _ _ hanswer, policyTexts_eq hread hroles]
  | testPermissions hanswer hgranted =>
    rw [Command.deed, Deed.result_ofAnswer_of_ok _ _ _ hanswer, permissionTexts_eq hgranted]

end

/-! ### Exhibits that are displayed -/

/-- Lines, each with a line feed at its end. -/
def textOfLines (lines : List (List Char)) : List Char := lines.flatMap fun l => l ++ ['\n']

/-- A command shows its exhibits as they are. -/
structure Outcome.Displays {σ : Type} (o : Outcome σ) (exhibits : List Exhibit) : Prop where
  /-- It ends with exit code zero. -/
  code : o.code = 0
  /-- It lets no failure through. -/
  failure : o.failure = none
  /-- The console takes no part of a text for markup. -/
  verbatim : ∀ x ∈ exhibits, ∀ t ∈ x.texts, Console.Markup.shown t = .ok { text := t.toList }
  /-- What is printed are the texts, laid out in lines. -/
  output : o.progress.output.toList = textOfLines (exhibits.flatMap Exhibit.lines)

section

variable {σ : Type}

/-- Printing ends with exit code zero and no failure only if all texts can be printed. -/
private theorem exists_ok_of_finish {s : Progress σ} {texts : List (Except Failure String)}
    (h : (s.finish texts).failure = none) : ∀ t ∈ texts, ∃ line, t = .ok line := by
  induction texts generalizing s with
  | nil => simp
  | cons t rest ih =>
    cases t with
    | ok line => exact List.forall_mem_cons.mpr ⟨⟨line, rfl⟩, ih h⟩
    | error e => simp [Progress.finish] at h

/-- Exhibits that can be printed are printed in turn. -/
private theorem finish_printed {exhibits : List Exhibit}
    (h : ∀ x ∈ exhibits, x.printed = .ok (String.ofList (textOfLines x.lines))) (s : Progress σ) :
    s.finish (exhibits.map Exhibit.printed) =
      ⟨{ s with output := s.output ++
        String.ofList (textOfLines (exhibits.flatMap Exhibit.lines)) }, 0, none⟩ := by
  induction exhibits generalizing s with
  | nil => simp [Progress.finish, textOfLines]
  | cons x rest ih =>
    rw [List.forall_mem_cons] at h
    rw [List.map_cons, h.1, Progress.finish, ih h.2]
    simp [textOfLines, String.append_assoc]

variable [Service σ] {w : World σ} {files : FileTree} {c : Command} {exhibits : List Exhibit}

/-- Exhibits are displayed exactly if their texts are literal and can be printed. -/
private theorem Command.Returned.displays_iff (h : c.Returned w files exhibits) :
    (c.run w files).Displays exhibits ↔ ∀ x ∈ exhibits, x.Literal ∧ x.Whole := by
  have hrun : c.run w files = Progress.finish
      { world := (c.deed w files).world, files := (c.deed w files).files }
      (exhibits.map Exhibit.printed) := by
    rw [Command.run_eq_outcome, Deed.outcome, h.result_eq]
  constructor
  · intro hdisplays x hx
    have hliteral : x.Literal := fun t ht =>
      Console.Markup.shown_eq_iff.mp (hdisplays.verbatim x hx t ht)
    refine ⟨hliteral, ?_⟩
    -- no print failed, so the lines of literal texts could be printed
    have hfailure := hdisplays.failure
    rw [hrun] at hfailure
    obtain ⟨line, hline⟩ := exists_ok_of_finish hfailure _ (List.mem_map_of_mem hx)
    have hwritable := Exhibit.isWritable_of_printed hline
    rw [Exhibit.printed_of_literal hliteral hwritable, output] at hline
    split at hline
    · next hwhole => exact ⟨hwritable, List.all_eq_true.mp hwhole⟩
    · simp at hline
  · intro hexhibits
    have hprinted : ∀ x ∈ exhibits, x.printed = .ok (String.ofList (textOfLines x.lines)) := by
      intro x hx
      obtain ⟨hliteral, hwhole⟩ := hexhibits x hx
      rw [Exhibit.printed_of_literal hliteral hwhole.writable, output,
        if_pos (List.all_eq_true.mpr hwhole.lines)]
      rfl
    rw [hrun, finish_printed hprinted]
    refine ⟨rfl, rfl, fun x hx t ht => ?_, by simp⟩
    exact Console.Markup.shown_eq_iff.mpr ((hexhibits x hx).1 t ht)

/-- **What commands show.** When its service operation returned, a command shows resources, roles,
members, tags and permissions as they are, and ends with exit code zero, exactly if none of the
texts holds markup or half of a pair, and tag and version can be written: texts are not escaped, as
messages of errors are. Each text that has room then stands in the output unbroken. -/
theorem Command.Returned.shows (h : c.Returned w files exhibits) :
    ((c.run w files).Displays exhibits ↔ ∀ x ∈ exhibits, x.Literal ∧ x.Whole) ∧
      ((c.run w files).Displays exhibits → ∀ x ∈ exhibits, x.HasRoom → ∀ s, x.Says s →
        s.toList <:+: (c.run w files).progress.output.toList) := by
  refine ⟨h.displays_iff, fun hdisplays x hx hroom s hs => ?_⟩
  obtain ⟨l, hl, hinfix⟩ := Exhibit.exists_infix_lines hroom hs
  have hline : l ∈ exhibits.flatMap Exhibit.lines := List.mem_flatMap.mpr ⟨x, hx, hl⟩
  obtain ⟨before, after, hlines⟩ := List.append_of_mem hline
  rw [hdisplays.output, hlines, textOfLines, List.flatMap_append, List.flatMap_cons]
  refine hinfix.trans ⟨textOfLines before, '\n' :: textOfLines after, ?_⟩
  simp [textOfLines]

end

/-- A member with brackets that are no tag, in a policy that is read. -/
theorem Command.Returned.shows_brackets :
    let binding : Value := .ofFields [("role", .text "roles/viewer"),
      ("members", .list [.text "user:ann[1]"])]
    let w : World Store := { ambient := some "me", service := { documents := [("projects/p",
      .ofFields [("bindings", .list [binding]), ("etag", .text "tag"), ("version", .int 1)])] } }
    let c : Command := .showPolicy "projects/p"
    let exhibits : List Exhibit :=
      [.table "projects/p" [("roles/viewer", ["user:ann[1]"])], .stamp (.text "tag") (some 1)]
    c.Returned w {} exhibits ∧ (c.run w {}).Displays exhibits ∧
      "user:ann[1]".toList <:+: (c.run w {}).progress.output.toList := by
  intro binding w c exhibits
  let p : Policy := ⟨.roles, [({ name := .text "roles/viewer" }, [⟨.user, .text "ann[1]"⟩])],
    .text "tag", .int 1⟩
  have hanswer : (Admin.getPolicy w (.text "projects/p") none .null).2 = .ok p := by
    with_unfolding_all rfl
  have hlisting : p.listing = [("roles/viewer", ["user:ann[1]"])] := by with_unfolding_all rfl
  have hreturned : c.Returned w {} exhibits := by
    have hexhibits : policyExhibits "projects/p" p = exhibits := by
      rw [policyExhibits, hlisting]
      rfl
    exact hexhibits ▸ .showPolicy hanswer (by simp [p])
  have hliteral : ∀ x ∈ exhibits, ∀ t ∈ x.texts, Console.Markup.IsLiteral t.toList := by
    decide
  have hwhole : ∀ x ∈ exhibits, ∀ t ∈ x.texts, Text.isWhole t.toList = true := by decide
  have hwritable : ∀ x ∈ exhibits, x.isWritable = true := by decide
  obtain ⟨hiff, hsays⟩ := hreturned.shows
  have hdisplays := hiff.mpr fun x hx =>
    ⟨hliteral x hx, Exhibit.whole_of_texts (hwhole x hx) (hwritable x hx)⟩
  have hroom : Exhibit.FitsTable "projects/p" [("roles/viewer", ["user:ann[1]"])] := by
    constructor <;> decide
  exact ⟨hreturned, hdisplays, hsays hdisplays _ List.mem_cons_self hroom _
    (.inr ⟨_, List.mem_singleton_self _, .inr (List.mem_singleton_self _)⟩)⟩

/-- A member that reads as a closing tag: the service stores the grant, and the command says so; but
it fails before it has shown the policy. -/
theorem Command.fails_after_grant :
    let c : Command := .addBinding "projects/p" "viewer" ["user:[/x]"]
    let w : World Store := { service := {}, ambient := some "me" }
    let binding : Value := .ofFields [("role", .text "roles/viewer"),
      ("members", .list [.text "user:[/x]"])]
    let exhibits : List Exhibit :=
      [.line .granted "viewer to 1 member(s) on projects/p",
        .table "projects/p" [("roles/viewer", ["user:[/x]"])], .stamp (.text "etag-1") (some 1)]
    c.Returned w {} exhibits ∧
      (c.run w {}).progress.world.service.current "projects/p" = .ofFields
        [("bindings", .list [binding]), ("etag", .text "etag-1"), ("version", .int 1)] ∧
      (c.run w {}).progress.output = "Granted viewer to 1 member(s) on projects/p\n" ∧
      (c.run w {}).code = 1 ∧ (c.run w {}).failure = some .markup ∧
      ¬(c.run w {}).Displays exhibits := by
  intro c w binding exhibits
  let p : Policy := ⟨.roles, [({ name := .text "roles/viewer" }, [⟨.user, .text "[/x]"⟩])],
    .text "etag-1", .int 1⟩
  have hanswer : (Admin.addBinding w (.text "projects/p") none (.named (.text "viewer"))
      (["user:[/x]"].map fun m => .member (.text m))).2 = .ok p := by
    with_unfolding_all rfl
  have hlisting : p.listing = [("roles/viewer", ["user:[/x]"])] := by with_unfolding_all rfl
  have hreturned : c.Returned w {} exhibits := by
    have hexhibits : (.line .granted ("viewer" ++ " to " ++ toString ["user:[/x]"].length ++
        " member(s) on " ++ "projects/p") :: policyExhibits "projects/p" p : List Exhibit) =
          exhibits := by
      rw [policyExhibits, hlisting]
      with_unfolding_all rfl
    exact hexhibits ▸ .addBinding hanswer (by simp [p])
  have hcode : (c.run w {}).code = 1 := by decide +kernel
  have hfailure : ((c.run w {}).failure.any fun | .markup => true | _ => false) = true := by
    decide +kernel
  obtain ⟨e, he, hmarkup⟩ := (Option.any_eq_true _ _).mp hfailure
  obtain rfl : e = .markup := by
    cases e <;> first | rfl | simp at hmarkup
  refine ⟨hreturned, ?_, by decide +kernel, hcode, he, fun hdisplays => ?_⟩
  · rw [(c.progress_run w {}).1, Command.deed, Deed.world_ofAnswer]
    with_unfolding_all rfl
  · simp [hdisplays.code] at hcode

end AccessPolicy.CommandLine
