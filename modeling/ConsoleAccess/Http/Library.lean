import ConsoleAccess.Http.Status

/-!
What a client asks of the library that speaks HTTP for it, and what it hears. The library reads
addresses, keeps cookies, follows redirects, minds the time, decodes bodies and passes over interim
answers; the servers and all that lies between stand behind it.

* `Http.Library`: any such library, with whatever it has to do with.
-/

namespace ConsoleAccess.Http

inductive Method
  | get
  | post
deriving DecidableEq, Repr

def Method.text : Method → Text
  | .get => "GET".toList
  | .post => "POST".toList

structure Request where
  method : Method
  target : Text
  contentType : Option Text
  cookie : Option Text
  body : Text
deriving DecidableEq, Repr

structure Call where
  method : Method
  address : Text
  json? : Option Text
  timeoutSeconds : Nat
deriving DecidableEq, Repr

/-- The answer that a call ends with. Its body arrives after its status, and may not arrive. -/
structure Response where
  status : Status
  text : Except Text Text
deriving Repr

/-- A call with what came of it: the reply, or the library's own words on why there is none, and the
requests that went out, those by which redirects were followed among them. -/
structure Exchange where
  call : Call
  reply : Except Text Response
  requests : List Request
deriving Repr

/-- A library that makes calls, one after another, each with a limit of its own to the time that it
may take. `start` says whether it can be used with such a limit at all; `send` gives the reply to a
call and the requests that went out for it. -/
structure Library where
  State : Type
  start : Nat → Except Text Unit
  send : Call → State → Except Text Response × List Request × State

def Library.exchange (library : Library) (call : Call) (state : library.State) :
    Exchange × library.State :=
  let (reply, requests, state) := library.send call state
  ({ call, reply, requests }, state)

end ConsoleAccess.Http
