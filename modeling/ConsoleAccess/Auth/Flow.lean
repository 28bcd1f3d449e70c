import ConsoleAccess.Auth.Cache
import ConsoleAccess.Http.Status

/-!
The authentication flow: what signing in, signing out and a server's refusals do to the cache.

* `Auth.isInvalidSession`: the one refusal that ends a session.
-/

namespace ConsoleAccess.Auth

def invalidSessionMessage : Text := "invalid session".toList

inductive Signal
  | proceed
  | redirectToLogin
deriving DecidableEq, Repr

/-- Reads the message of an error body: an object with at most one member `message`, or an array of
at most one message. A message left out is empty. -/
def errorMessage? : Json.Tree → Option Text
  | .object members =>
    match (Json.named? members).bind (Json.soleMember? ["message".toList]) with
    | some none => some []
    | some (some (.string text?)) => text?
    | _ => none
  | .array [] => some []
  | .array [.string text?] => text?
  | _ => none

def isInvalidSession (status : Http.Status) (body : Text) : Bool :=
  status == .forbidden &&
    (Json.Tree.read? body).bind errorMessage? == some invalidSessionMessage

def establishSteps (payload : Payload) : List Cache.Step := [.load payload.session, .get]

def establish (payload : Payload) (cache : Cache) : Snapshot × Cache :=
  let cache := cache.run (establishSteps payload)
  (cache.get, cache)

def finish (cache : Cache) : Cache := cache.apply .clear

def observe (status : Http.Status) (body : Text) (cache : Cache) : Signal × Cache :=
  if isInvalidSession status body then (.redirectToLogin, finish cache) else (.proceed, cache)

end ConsoleAccess.Auth
