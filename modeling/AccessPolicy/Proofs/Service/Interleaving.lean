import AccessPolicy.Proofs.Service.Amendment
import AccessPolicy.Proofs.Service.Attempt
import Mathlib.Logic.Function.Basic

/-!
# Interleaved amendments

Any number of clients, each of which makes one amendment of the policy of one resource, share a
service. It answers one request at a time, of whichever client. What is asked of the service is a
`TagGuard`: it refuses writes that carry another tag than the document, and stores what it accepts
under a tag never used before. A store that no one else changes is such a service.

* `TagGuard`: what is asked of the service;
* `Interleaving`, `Interleaving.step`, `Interleaving.run`: the clients between requests, and what a
  request of one of them does;
* `replay`: the amendments of some clients one after another;
* `Store.tagGuard`: a store as such a service.
-/

namespace AccessPolicy

/-! ### The service -/

/-- A service that guards the document of a resource by its tag. Requests may fail at any time, as
long as one that fails changes nothing. -/
structure TagGuard (σ : Type) [Service σ] (name : String) where
  /-- The states that the laws are about. -/
  Valid : σ → Prop
  /-- The fields of the document. -/
  fields : σ → List (Value × Value)
  /-- The tags used so far. -/
  Used : σ → String → Prop
  /-- The tag of the document is in use. -/
  used_tag : ∀ {s t}, Valid s → Value.field "etag" (fields s) = .text t → Used s t
  /-- A read leaves the document. If it does not fail, the reply is the document. -/
  read : ∀ {s} {r : Request} {version : Value}, Valid s → r.resource = name →
    r.action = .getPolicy version →
      Valid (Service.answer s r).1 ∧ fields (Service.answer s r).1 = fields s ∧
      (∀ t, Used s t → Used (Service.answer s r).1 t) ∧
      ((Service.answer s r).2 = .ok (.map (fields s)) ∨ ∃ e, (Service.answer s r).2 = .error e)
  /-- A write that fails leaves the document. One that is accepted carried no other tag than the
  document. It is stored under a tag never used before, and the reply is what was stored. -/
  write : ∀ {s} {r : Request} {body : List (Value × Value)}, Valid s → r.resource = name →
    r.action = .setPolicy body →
      Valid (Service.answer s r).1 ∧ (∀ t, Used s t → Used (Service.answer s r).1 t) ∧
      ((fields (Service.answer s r).1 = fields s ∧ ∃ e, (Service.answer s r).2 = .error e) ∨
        Store.carriesOther (Value.field "etag" (fields s)) body = false ∧
        ∃ t, ¬ Used s t ∧
          fields (Service.answer s r).1 = Value.putField "etag" (.text t) body ∧
          (Service.answer s r).2 = .ok (.map (Value.putField "etag" (.text t) body)))

/-! ### The clients -/

/-- A client: an amendment to make, the collection that is asked, and credentials. -/
structure Client where
  /-- What is to be granted or revoked. -/
  amendment : Amendment
  /-- The collection that the requests go to. -/
  collection : Collection
  /-- The credentials used for all requests. -/
  credentials : Option Credentials

/-- The edit of a client. -/
def Client.call (c : Client) (name : String) : Edit.Call :=
  ⟨c.collection, name, c.credentials, c.amendment.change⟩

/-- The amendments of some clients made one after another. -/
def replay {ι : Type} (clients : ι → Client) (l : List ι) (p : Policy) : Except Failure Policy :=
  l.foldlM (fun p i => Edit.changed (clients i).amendment.change p) p

/-- Clients that share a service, between two requests. -/
structure Interleaving (σ ι : Type) where
  /-- The service with what was done to it. -/
  world : World σ
  /-- Where each client stands. -/
  phase : ι → Edit.Phase
  /-- The clients whose writes were accepted, in this order. -/
  accepted : List ι := []
  /-- The clients that were given a policy, in this order. -/
  done : List ι := []

namespace Interleaving

variable {σ ι : Type}

/-- All clients are about to read. -/
def start (w : World σ) : Interleaving σ ι := { world := w, phase := fun _ => .reading 1 }

/-- Whether a step from one phase to the next gives a policy. -/
def gives : Edit.Phase → Edit.Phase → Bool
  | .finished _, _ => false
  | _, .finished (.ok _) => true
  | _, _ => false

variable [Service σ]

/-- Whether the request that is due is a write that the service accepts. -/
def isAccepted (call : Edit.Call) (w : World σ) : Edit.Phase → Bool
  | .writing _ fields => (Service.answer w.service
      ⟨call.collection, call.name, .setPolicy fields, call.credentials⟩).2.isOk
  | _ => false

variable [DecidableEq ι]

/-- A client makes the request that is due to it, and goes on from the reply. -/
def step (name : String) (clients : ι → Client) (s : Interleaving σ ι) (i : ι) :
    Interleaving σ ι :=
  let call := (clients i).call name
  let next := call.step s.world (s.phase i)
  { world := next.1
    phase := Function.update s.phase i next.2
    accepted := if isAccepted call s.world (s.phase i) then s.accepted ++ [i] else s.accepted
    done := if gives (s.phase i) next.2 then s.done ++ [i] else s.done }

/-- Clients make requests in the order of a schedule. -/
def run (name : String) (clients : ι → Client) (schedule : List ι) (s : Interleaving σ ι) :
    Interleaving σ ι :=
  schedule.foldl (step name clients) s

end Interleaving

/-! ### Stores -/

namespace Store

open View (tag)

/-- The fields of a document; none if it is no map. -/
def fieldsOf : Value → List (Value × Value)
  | .map fields => fields
  | _ => []

/-- Whether no one else changes a store, and the document of a resource has a tag that is not issued
again. -/
structure Undisturbed (s : Store) (name : String) : Prop where
  /-- The reply to a write is what was stored. -/
  answer : s.writeAnswer = none
  /-- No changes by others are to come. -/
  edits : s.view.edits = []
  /-- The document is a map. -/
  document : ∃ fields, s.view.current name = .map fields
  /-- The tag of the document is not issued again. -/
  tag : ∀ t, Value.field "etag" (fieldsOf (s.view.current name)) = .text t →
    ∀ n, s.view.issued < n → .text t ≠ tag n

/-- **Stores guard by tags**, if no one else changes them. -/
def tagGuard (name : String) : TagGuard Store name where
  Valid s := s.Undisturbed name
  fields s := fieldsOf (s.view.current name)
  Used s t := ∀ n, s.view.issued < n → .text t ≠ tag n
  used_tag h ht := h.tag _ ht
  read := by
    rintro s r version h rfl hr
    obtain ⟨fields, hcurrent⟩ := h.document
    have hread : Service.answer s r = s.read r.resource := by
      simp only [Service.answer, Store.answer, hr]
    obtain ⟨hview, hanswer, hreply⟩ := s.read_cases r.resource
    rw [hread, hview]
    refine ⟨⟨hanswer.trans h.answer, ?_, ?_, ?_⟩, rfl, fun t ht => ht, ?_⟩
    · rw [hview]
      exact h.edits
    · rw [hview]
      exact h.document
    · rw [hview]
      exact h.tag
    · rwa [hcurrent] at hreply ⊢
  write := by
    rintro s r body h rfl hr
    have hwrite : Service.answer s r = s.write r.resource body := by
      simp only [Service.answer, Store.answer, hr]
    have hwritten := s.written_write r.resource body h.answer
    rw [hwrite]
    -- no changes by others are to come, so the document is that of the store at all times
    have hfixed : ∀ n, View.takeEdit^[n] s.view = s.view :=
      Function.iterate_fixed (by simp [View.takeEdit, h.edits])
    generalize s.write r.resource body = result at hwritten
    cases hwritten with
    | failed n e hview hanswer =>
      rw [hfixed] at hview
      refine ⟨⟨hanswer, ?_, ?_, ?_⟩, ?_, .inl ⟨by rw [hview], e, rfl⟩⟩ <;> rw [hview]
      · exact h.edits
      · exact h.document
      · exact h.tag
      · exact fun t ht => ht
    | accepted n hetag hview hanswer =>
      rw [hfixed] at hview hetag
      have hstored : (s.view.accept r.resource body).current r.resource = s.view.stored body :=
        Function.update_self ..
      have hissued : ∀ n, (s.view.accept r.resource body).issued < n → s.view.issued + 1 < n :=
        fun n hn => hn
      obtain ⟨fields, hcurrent⟩ := h.document
      dsimp only
      rw [hfixed]
      refine ⟨⟨hanswer, ?_, ?_, ?_⟩, ?_,
        .inr ⟨?_, "etag-" ++ toString (s.view.issued + 1), ?_, ?_, rfl⟩⟩
      · rw [hview]
        exact h.edits
      · rw [hview]
        exact ⟨_, hstored⟩
      · intro t ht n hn heq
        rw [hview, hstored, View.stored, fieldsOf, Value.field_putField_self] at ht
        rw [hview] at hn
        have hn' := View.tag_injective (ht.trans heq)
        have := hissued n hn
        omega
      · intro t ht n hn
        rw [hview] at hn
        have := hissued n hn
        exact ht n (by omega)
      · rwa [hcurrent] at hetag ⊢
      · exact fun hused => hused (s.view.issued + 1) (Nat.lt_succ_self _) rfl
      · rw [hview, hstored]
        rfl

end Store

end AccessPolicy
