import AccessPolicy.Service.Request
import AccessPolicy.Text.Percent

/-!
# Requests on the wire

The message that carries a request to the service over HTTP. A resource name must be the word of its
collection and one more part; a request for any other name is refused before it is sent. An
`Endpoint` sends messages and gets the same reply to all of them.
-/

namespace AccessPolicy

/-- A message over HTTP. -/
structure Message where
  /-- The method. -/
  method : String
  /-- The address. -/
  uri : String
  /-- The body. -/
  body : Value

namespace Message

/-- The address of the service. -/
def base : String := "https://cloudresourcemanager.googleapis.com/v3/"

/-- Whether a resource name is the word of a collection and one more part. -/
def isWellNamed (r : Request) : Bool :=
  let start := (r.collection.word ++ "/").toList
  let part := r.resource.toList.drop start.length
  start.isPrefixOf r.resource.toList && !part.isEmpty && !part.contains '/'

/-- The message of a request. -/
def ofRequest (r : Request) : Except Failure Message :=
  if !isWellNamed r then .error .wrongKind
  else if !Text.canPercentEncode r.resource.toList then .error .halfCharacter
  else
    .ok ⟨"POST",
      base ++ String.ofList (Text.percentEncode r.resource.toList) ++ ":" ++ r.action.method
        ++ "?alt=json",
      r.action.body⟩

end Message

/-- The end of a wire: a fixed reply, and the messages sent. -/
structure Endpoint where
  /-- The reply to every message. -/
  reply : Value
  /-- The messages sent, in order. -/
  sent : List Message := []

namespace Endpoint

/-- Sends the message of a request. -/
def answer (e : Endpoint) (r : Request) : Endpoint × Except Failure Value :=
  match Message.ofRequest r with
  | .error failure => (e, .error failure)
  | .ok m => ({ e with sent := e.sent ++ [m] }, .ok e.reply)

instance : Service Endpoint := ⟨answer⟩

end Endpoint

end AccessPolicy
