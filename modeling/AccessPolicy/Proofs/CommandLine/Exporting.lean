import AccessPolicy.Proofs.CommandLine.Stages
import AccessPolicy.Proofs.Policy.Saving
import AccessPolicy.Proofs.Service.Replacing

/-!
# Exporting a policy and applying the file

An export writes the policy that it reads to a file, and the file holds that policy. To apply the
file is to write the policy back: while the document was not stored, the tag in the file is still
that of the document, so that the write is accepted at once, and what is stored reads as before, but
for the new tag. It makes no difference how the document was written at first.

* `Policy.Sent.exists_load_of_save`: a policy that was read from a service is loaded as it was;
* `Command.Renews`: nothing but the tag of a document is new;
* `Command.apply_after_export`: what an export and an application of its file come to.
-/

namespace AccessPolicy

open CommandLine (exists_of_any)
open Store.View (tag)

/-! ### One file -/

/-- **Saved policies** that were read from a service are loaded as they were. -/
theorem Policy.Sent.exists_load_of_save {p : Policy} (h : p.Sent)
    (hetag : p.etag = .null ∨ ∃ s, p.etag = .text s) (hyaml : p.ReadsBack) {t : FileTree}
    {path : String} (hpath : t.Writable path) :
    ∃ t' bs, Policy.save t p path = (t', .ok (Path.parse path).text) ∧
      Policy.load t' (Path.parse path).text = .ok ⟨.roles, bs, p.etag, p.version⟩ ∧
      Policy.Sent ⟨.roles, bs, p.etag, p.version⟩ ∧ bs.same p.bindings = true := by
  obtain ⟨fields, hfields⟩ := h.exists_fieldsOf
  have hencode := Edit.encode_of_fieldsOf hfields
  have htextual := Policy.textual_of_canonical h.canonical hetag h.version
  obtain ⟨t', hsave, hload⟩ := Policy.load_of_save htextual hencode hyaml hpath
  obtain ⟨bs, hdecode, hsame⟩ := (Edit.renders_of_fieldsOf hfields).decode_of_canonical
    h.sound h.canonical h.version
  have hjson : p.etag.isJson = true := by
    rcases hetag with he | ⟨s, he⟩ <;> rw [he] <;> rfl
  have hq := Policy.sent_of_decode (h.fieldsJson hjson hfields) hdecode
  exact ⟨t', bs, hsave, hload.trans hdecode, hq, hsame⟩

/-! ### A file that is written and read -/

/-- A file that is new in the directory that one is in. -/
private theorem writable_here : FileTree.Writable {} "f" := by
  have hparse : Path.parse "f" = ⟨"", ["f"]⟩ := rfl
  have htext : Path.text ⟨"", ["f"]⟩ = "f" := by decide
  have hopen : (FileTree.write {} "f" []).toOption.any (fun _ => true) = true := by
    with_unfolding_all rfl
  obtain ⟨t, ht, -⟩ := exists_of_any hopen
  refine ⟨by decide, {}, t, ?_, ?_⟩
  · rw [hparse]
    exact FileTree.makeDirectories_here {}
  · rw [hparse, htext]
    exact ht

/-- A policy that was read from a document with bare and repeated names. -/
private def unioned : Policy :=
  ⟨.roles, [(Role.viewer, [⟨.user, .text "ann@x.org"⟩, ⟨.allUsers, .null⟩])], .text "a", .int 1⟩

private theorem readsBack_unioned : unioned.ReadsBack := by
  let document : List (Value × Value) := [
    (.text "bindings", .list [.map [(.text "role", .text "roles/viewer"),
      (.text "members", .list [.text "allUsers", .text "user:ann@x.org"])]]),
    (.text "etag", .text "a"), (.text "version", .int 1)]
  have hmembers : Policy.memberStrings [⟨.user, .text "ann@x.org"⟩, ⟨.allUsers, .null⟩] =
      ["allUsers", "user:ann@x.org"] := by
    have hlater : Text.precedes "allUsers" "user:ann@x.org" = true := by decide
    have hann : Identity.memberString ⟨.user, .text "ann@x.org"⟩ = "user:ann@x.org" := rfl
    have hall : Identity.memberString ⟨.allUsers, .null⟩ = "allUsers" := rfl
    simp [Policy.memberStrings, List.mergeSort, hlater, hann, hall]
  have hrole : Role.fullName "viewer" = "roles/viewer" := rfl
  have hencode : unioned.encode = .ok (.map document) := by
    simp [unioned, Policy.encode, Policy.sortedByRole, Policy.encodeBinding, Policy.optionalField,
      Policy.membersWritable, Identity.isWritable, hmembers, hrole, Value.ofFields, Value.isNull,
      Role.viewer, document]
  have hwritable : Value.entriesWritable document = true := rfl
  have htext : Yaml.render document = "bindings:\n- role: roles/viewer\n  members:\n" ++
      "  - allUsers\n  - user:ann@x.org\netag: a\nversion: 1\n" := by
    simp only [document, Yaml.render, Yaml.writeEntries, Yaml.writeKey, Yaml.writeValue,
      Yaml.writeItems, Yaml.writeScalar]
    rfl
  have hvalue : (Yaml.valueOf ("bindings:\n- role: roles/viewer\n  members:\n" ++
      "  - allUsers\n  - user:ann@x.org\netag: a\nversion: 1\n").toList).toOption.any
      (·.eqData (.map document)) = true := by
    decide +kernel
  intro fields hfields
  obtain rfl : document = fields := by simpa using hencode.symm.trans hfields
  obtain ⟨v, hv, heq⟩ := exists_of_any hvalue
  have htoText : unioned.toText = .ok (Yaml.render document) := by
    rw [Policy.toText, hencode]
    exact if_pos hwritable
  refine ⟨_, htoText, ?_⟩
  rw [htext, hv, Value.eq_of_eqData heq]

/-! ### One write -/

namespace Handle

/-- A replacement makes one request: the write. -/
theorem requestsSince_replacePolicy {σ : Type} [Service σ] {h : Handle} {w : World σ}
    {given : Option Credentials} (hc : ∃ c, (h.credentials w given).2 = .ok c) {p : Policy}
    {fields : List (Value × Value)} (hfields : Edit.fieldsOf p = .ok fields) :
    ∃ collection c, (h.replacePolicy w given p).1.requestsSince w =
      [⟨collection, h.resource.fullName, .setPolicy fields, some c⟩] := by
  obtain ⟨c, hc⟩ := hc
  obtain ⟨events, hnone, hrun⟩ := withCredentials_of_ok hc fun w c =>
    w.setPolicy c h.resource.fullName p
  refine ⟨h.resource.collection, c, ?_⟩
  rw [replacePolicy, hrun, World.setPolicy, Collection.owning_fullName]
  dsimp only
  rw [hfields]
  simp [World.requestsSince, World.send, World.note, hnone, Edit.writeLine, List.filterMap_cons,
    Event.request?]

/-- A read of a policy stores nothing. -/
theorem view_policy (h : Handle) (w : World Store) (given : Option Credentials) (version : Value) :
    (h.policy w given version).1.service.view = w.service.view := by
  obtain ⟨w', hservice, ⟨e, hrun⟩ | ⟨c, hrun⟩⟩ := h.withCredentials_cases w given fun w c =>
    w.getPolicy c h.resource.fullName version
  · rw [policy, hrun, ← hservice]
  · rw [policy, hrun, World.getPolicy, Collection.owning_fullName, ← hservice]
    exact (w'.service.read_cases h.resource.fullName).1

end Handle

/-! ### Exports and applications -/

namespace CommandLine

/-- An export does nothing with the service but read the policy. -/
private theorem world_export {name path : String} (w : World Store) (files : FileTree)
    (hpath : FileTree.badPath? path = none) :
    ((Command.exportPolicy name path).run w files).progress.world =
      (Admin.getPolicy w (.text name) none .null).1 := by
  rw [(Command.progress_run _ w files).1, Command.deed, hpath]
  exact Deed.world_ofSaved files path _

/-- An export writes the policy that is read. -/
private theorem files_export {name path : String} {w : World Store} {files files' : FileTree}
    {p : Policy} (hpath : FileTree.badPath? path = none)
    (hget : (Admin.getPolicy w (.text name) none .null).2 = .ok p)
    {saved : Except Failure String} (hsave : Policy.save files p path = (files', saved)) :
    ((Command.exportPolicy name path).run w files).progress.files = files' := by
  rw [(Command.progress_run _ w files).2, Command.deed, hpath]
  exact Deed.files_ofSaved_of_ok hget hsave

/-- What an application of a file comes to from which the policy `q` is loaded. -/
private theorem deed_apply {name path : String} {w : World Store} {files : FileTree}
    {q : Policy} (hpath : FileTree.badPath? path = none)
    (hload : Policy.load files (Path.parse path).text = .ok q) :
    (Command.applyPolicy name path).deed w files =
      .ofAnswer files (policyTexts name) (Admin.setPolicy w (.text name) none q) := by
  rw [Command.deed, hpath]
  dsimp only
  rw [hload]

/-- What it comes to that the policy `q` of a file is applied to a resource: the write meets the
store `met`, and nothing is new about the document of the resource but its tag. The policy `p` is
the one that was exported. -/
structure Command.Renews (c : Command) (name : String) (r : Resource) (p q : Policy)
    (w : World Store) (files : FileTree) (met : Store) : Prop where
  /-- A single request is made: the write. -/
  single : ∃ collection fields credentials, (c.run w files).progress.world.requestsSince w =
    [⟨collection, r.fullName, .setPolicy fields, credentials⟩]
  /-- The write is accepted. -/
  accepted : q.StoredIn r.fullName met (c.run w files).progress.world.service
  /-- The document reads as the policy exported, under the next tag. If the answer to writes is what
  is stored, that is the policy which the command shows. -/
  renewed : ∃ bs : Bindings, bs.same p.bindings = true ∧
    Policy.decode ((c.run w files).progress.world.service.current r.fullName) =
      .ok ⟨.roles, bs, tag (met.issued + 1), p.version⟩ ∧
    (met.writeAnswer = none → (c.deed w files).result =
      .ok (policyTexts name ⟨.roles, bs, tag (met.issued + 1), p.version⟩))
  /-- That tag is new if the tags of documents are not issued again. -/
  fresh : w.service.Tagged r.fullName → tag (met.issued + 1) ≠ p.etag

/-- A policy of a file that may replace a document, applied to its resource. -/
private theorem renews_of_mayReplace {name path : String} {r : Resource}
    (hr : Resource.ofName name = .ok r) {w : World Store} {files : FileTree} {p q : Policy}
    (hpath : FileTree.badPath? path = none)
    (hload : Policy.load files (Path.parse path).text = .ok q) (hp : p.bindings.Sound)
    (hq : q.Sent) (hsame : q.bindings.same p.bindings = true) (hetag : ∃ s, q.etag = .text s)
    (hversion : q.version = p.version) {met : Store} (hd : Handle.Delivers ⟨r, none⟩ w none met)
    (hmay : q.MayReplace (met.current r.fullName))
    (hfresh : w.service.Tagged r.fullName → tag (met.issued + 1) ≠ p.etag) :
    (Command.applyPolicy name path).Renews name r p q w files met := by
  have hdeed : (Command.applyPolicy name path).deed w files =
      .ofAnswer files (policyTexts name) (Handle.replacePolicy ⟨r, none⟩ w none q) := by
    rw [deed_apply hpath hload, Admin.setPolicy, Admin.onName, Resource.ofValue, hr]
  have hworld : ((Command.applyPolicy name path).run w files).progress.world =
      (Handle.replacePolicy ⟨r, none⟩ w none q).1 := by
    rw [(Command.progress_run _ w files).1, hdeed, Deed.world_ofAnswer]
  obtain ⟨hstored, bs, hbindings, hdecode, hgiven⟩ :=
    Handle.storedIn_of_mayReplace hd hq (.inr hetag) hmay
  obtain ⟨fields, hfields⟩ := hq.exists_fieldsOf
  obtain ⟨collection, c, hrequests⟩ :=
    Handle.requestsSince_replacePolicy hd.credentials hfields
  rw [hversion] at hdecode hgiven
  refine ⟨⟨collection, fields, some c, hworld ▸ hrequests⟩, hworld ▸ hstored,
    ⟨bs, ?_, hworld ▸ hdecode, fun hanswer => ?_⟩, hfresh⟩
  · exact Bindings.same_trans (Policy.decode_sound hdecode) hq.sound hp hbindings hsame
  · rw [hdeed]
    exact Deed.result_ofAnswer_of_ok files _ _ (hgiven hanswer)

/-- **Export, then apply.** Let an export read the policy of a resource, from a document of JSON
with a text as its tag, and let the path be one that can be written. If YAML keeps the policy, the
file that is written holds one equal to it, with the same tag and version. Whatever is done
meanwhile, if the document is not stored, and is not changed by someone else when the write arrives,
an application of that file is accepted with a single request, and nothing but the tag of the
document is new. -/
theorem Command.apply_after_export {name path : String} {r : Resource}
    (hr : Resource.ofName name = .ok r) {w : World Store} {files : FileTree} {p : Policy}
    (hget : (Admin.getPolicy w (.text name) none .null).2 = .ok p)
    (hjson : (w.service.current r.fullName).isJson = true) {etag : String}
    (hetag : Store.etagOf (w.service.current r.fullName) = .text etag) (hyaml : p.ReadsBack)
    (hpath : files.Writable path) :
    let exported := ((Command.exportPolicy name path).run w files).progress
    ∃ q, Policy.load exported.files (Path.parse path).text = .ok q ∧ q.same p = true ∧
      q.etag = p.etag ∧ q.version = p.version ∧
      ∀ steps, let u := Session.run exported.world steps
        r.fullName ∉ u.storedSince exported.world ++ u.service.arriving →
        ∀ met, Handle.Delivers ⟨r, none⟩ u none met →
          (Command.applyPolicy name path).Renews name r p q u exported.files met := by
  intro exported
  have hasked : Admin.getPolicy w (.text name) none .null =
      Handle.policy ⟨r, none⟩ w none .null := by
    rw [Admin.getPolicy, Admin.onName, Resource.ofValue, hr]
  have hdecode : Policy.decode (w.service.current r.fullName) = .ok p :=
    Handle.decode_of_policy ⟨r, none⟩ (hasked ▸ hget)
  have hpetag := Policy.etag_of_decode hdecode hetag
  -- what was read from JSON under a text as its tag comes back from its file
  have hp : p.Sent ∧ p.family = .roles := by
    generalize w.service.current r.fullName = document at hetag hjson hdecode
    cases document with
    | map fields =>
      exact ⟨Policy.sent_of_decode hjson hdecode, (Policy.decode_map_eq_ok_iff.mp hdecode).2.2.2⟩
    | _ => simp [Store.etagOf] at hetag
  obtain ⟨hp, hfamily⟩ := hp
  obtain ⟨files', bs, hsave, hload, hq, hsame⟩ :=
    hp.exists_load_of_save (.inr ⟨etag, hpetag⟩) hyaml hpath
  have hload : Policy.load exported.files (Path.parse path).text =
      .ok ⟨.roles, bs, p.etag, p.version⟩ := by
    rw [show exported.files = files' from files_export hpath.1 hget hsave, hload]
  have hview : exported.world.service.view = w.service.view := by
    rw [show exported.world = _ from world_export w files hpath.1, hasked, Handle.view_policy]
  have htextual := Policy.textual_of_canonical hp.canonical (.inr ⟨etag, hpetag⟩) hp.version
  refine ⟨_, hload, ?_, rfl, rfl, ?_⟩
  · simp [Policy.same, hfamily, hsame, htextual.etag_same, htextual.version_same]
  · intro steps u hnot met hd
    rw [List.mem_append, not_or] at hnot
    -- the document is the one that was exported, from the export to the write
    have harrived := Store.Restored.of_arrived hd.arrives
    have hkept : met.current r.fullName = w.service.current r.fullName := by
      rw [harrived.kept _ hnot.2, (Session.restored_run exported.world steps).kept _ hnot.1]
      exact congrFun (congrArg Store.View.current hview) r.fullName
    -- so the tag in the file is that of the document which the write meets
    have hpetag' : p.etag = Store.etagOf (met.current r.fullName) := by rw [hkept, hetag, hpetag]
    refine renews_of_mayReplace hr hpath.1 hload hp.sound hq hsame ⟨etag, hpetag⟩ rfl hd
      (.inr hpetag') fun htagged => ?_
    rw [hpetag']
    exact ((htagged.restored harrived).ne_next (.refl met)).symm

/-- A document in which a role is bound twice, once by its bare name, and another one is bound to no
one: an export, and at once an application of the file. -/
theorem Command.apply_after_export_at_once :
    let document := .ofFields [
      ("bindings", .list [
        .ofFields [("role", .text "viewer"),
          ("members", .list [.text "user:ann@x.org", .text "allUsers"])],
        .ofFields [("role", .text "roles/owner"), ("members", .list [])],
        .ofFields [("role", .text "roles/viewer"), ("members", .list [.text "user:ann@x.org"])]]),
      ("etag", .text "a"), ("version", .int 1)]
    let w : World Store :=
      { service := { documents := [("projects/p", document)] }, ambient := some "me" }
    let exported := ((Command.exportPolicy "projects/p" "f").run w {}).progress
    ∃ p q met, (Admin.getPolicy w (.text "projects/p") none .null).2 = .ok p ∧
      Policy.load exported.files "f" = .ok q ∧
      (Command.applyPolicy "projects/p" "f").Renews "projects/p" ⟨.projects, .text "p"⟩ p q
        exported.world exported.files met := by
  intro document w exported
  let h : Handle := ⟨⟨.projects, .text "p"⟩, none⟩
  have hr : Resource.ofName "projects/p" = .ok h.resource := rfl
  have hasked : Admin.getPolicy w (.text "projects/p") none .null = h.policy w none .null := by
    rw [Admin.getPolicy, Admin.onName, Resource.ofValue, hr]
  have hget : (Admin.getPolicy w (.text "projects/p") none .null).2 = .ok unioned := by
    have hdecode : Policy.decode document = .ok unioned := by with_unfolding_all rfl
    have hreaches : h.Reaches w none := ⟨⟨"me", rfl⟩, rfl⟩
    rw [hasked]
    exact (Handle.policy_of_reaches hreaches .null).trans hdecode
  have hjson : (w.service.current "projects/p").isJson = true := rfl
  have hetag : Store.etagOf (w.service.current "projects/p") = .text "a" := rfl
  obtain ⟨q, hload, -, -, -, hrenews⟩ :=
    Command.apply_after_export hr hget hjson hetag readsBack_unioned writable_here
  have htext : (Path.parse "f").text = "f" := rfl
  have hworld : exported.world = (h.policy w none .null).1 :=
    (world_export w {} writable_here.1).trans (congrArg Prod.fst hasked)
  have hd : h.Delivers exported.world none exported.world.service.arrive.1 := by
    have hfound : ((h.credentials exported.world none).2.toOption.any fun _ => true) = true := by
      rw [hworld]
      decide
    have harrive : (exported.world.service.arrive.2.toOption.any fun _ => true) = true := by
      rw [hworld]
      decide
    obtain ⟨c, hc, -⟩ := exists_of_any hfound
    obtain ⟨_, harrives, -⟩ := exists_of_any harrive
    exact ⟨⟨c, hc⟩, Prod.ext rfl harrives⟩
  have hnone :
      exported.world.storedSince exported.world ++ exported.world.service.arriving = [] := by
    have hview : exported.world.service.view = w.service.view := by rw [hworld, h.view_policy]
    have hedits : exported.world.service.edits = [] := congrArg Store.View.edits hview
    simp [World.storedSince, World.requestsSince, Store.storedBy, Store.arriving, hedits]
  exact ⟨_, q, _, hget, htext ▸ hload, hrenews [] (hnone ▸ List.not_mem_nil) _ hd⟩

end CommandLine

end AccessPolicy
