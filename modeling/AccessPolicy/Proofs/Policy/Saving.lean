import AccessPolicy.Policy.File
import AccessPolicy.Proofs.File.Writing
import AccessPolicy.Proofs.Policy.RoundTrip
import AccessPolicy.Proofs.Yaml.Rendering

/-!
# Saved policies

A policy that is saved is loaded again as it was, if YAML keeps its document: on the way through the
file nothing is lost, for the text is plain lines, and the bytes written are the bytes read.

* `Policy.ReadsBack`: YAML keeps the document of a policy;
* `Policy.load_of_save`: what is loaded after a policy was saved.
-/

namespace AccessPolicy.Policy

variable {t : FileTree} {p : Policy} {path : String} {fields : List (Value × Value)}

/-- Whether the document of a policy is written as YAML, and is the value of the text. -/
def ReadsBack (p : Policy) : Prop :=
  ∀ fields, p.encode = .ok (.map fields) →
    ∃ text, p.toText = .ok text ∧ Yaml.valueOf text.toList = .ok (.map fields)

/-- The document of a policy of texts is texts, integers, lists and maps. -/
private theorem fieldsData_of_encode (htextual : p.Textual)
    (hencode : p.encode = .ok (.map fields)) : Value.fieldsData fields = true := by
  obtain ⟨bs, hbs, -, heq⟩ := encode_eq_ok_iff.mp hencode
  obtain rfl := Value.map.inj heq
  have hentries : Value.allData (bs.map encodeBinding) = true := by
    simp only [Value.allData_iff, List.mem_map]
    rintro _ ⟨e, he, rfl⟩
    obtain ⟨s, hs⟩ := htextual.roles e ((sortedByRole_perm hbs).mem_iff.mp he)
    have hmembers : Value.allData ((memberStrings e.2).map .text) = true := by
      simp [Value.allData_iff, Value.isData]
    simp [encodeBinding, Value.ofFields, Value.isData, Value.fieldsData, Value.isText, hs,
      hmembers]
  rcases htextual.etag with he | ⟨s, he⟩ <;> rcases htextual.version with hv | ⟨n, hv⟩ <;>
    simp [Value.isData, Value.fieldsData, Value.isText, optionalField, Value.isNull, hentries,
      he, hv]

/-- A text that is written is the document, rendered. -/
private theorem toText_eq_ok (hencode : p.encode = .ok (.map fields)) {text : String}
    (htext : p.toText = .ok text) : text = Yaml.render fields := by
  rw [toText, hencode] at htext
  dsimp only at htext
  split at htext
  · exact (Except.ok.inj htext).symm
  · simp at htext

/-- **Saving and loading.** A policy that YAML keeps is saved at every path that can be written, and
then its document is read from there. -/
theorem load_of_save (htextual : p.Textual) (hencode : p.encode = .ok (.map fields))
    (hyaml : p.ReadsBack) (hpath : t.Writable path) :
    ∃ t', save t p path = (t', .ok (Path.parse path).text) ∧
      load t' (Path.parse path).text = decode (.map fields) := by
  obtain ⟨-, t₁, t₂, hmake, hopen⟩ := hpath
  obtain ⟨t₃, hwrite⟩ := FileTree.exists_write_of_write hopen (Yaml.render fields).toUTF8.toList
  obtain ⟨text, htext, hvalue⟩ := hyaml fields hencode
  obtain rfl := toText_eq_ok hencode htext
  have hclean := Yaml.clean_render (fieldsData_of_encode htextual hencode)
  refine ⟨t₃, ?_, ?_⟩
  · unfold save
    dsimp only
    rw [hmake]
    dsimp only
    rw [hopen]
    dsimp only
    rw [htext]
    dsimp only
    rw [hwrite]
  · rw [load, FileTree.read_of_write hwrite]
    dsimp only
    rw [hclean.decodeUtf8]
    dsimp only
    rw [ofText, hclean.unifyBreaks, hvalue]
    rfl

end AccessPolicy.Policy
