import ConsoleAccess.Http.Cookie
import ConsoleAccess.Http.Library
import ConsoleAccess.Http.Url
import ConsoleAccess.Text.Utf16

/-!
A library in memory, before one server that answers from a script. Each request takes the next entry
that is no interim answer, and where the script has ended or says so the connection is closed
without one. No answer points elsewhere or names a charset, so there are no redirects to follow, and
a body is in UTF-8 unless a byte order mark says otherwise. Answers come at once, whatever the limit.

* `Http.scripted`: this library.
-/

namespace ConsoleAccess.Http

/-- An answer of a script. Where it is cut short, the connection ends before the announced end of
the body. -/
structure Answer where
  status : Status
  cookies : List Text
  body : List UInt8
  cutShort : Bool
deriving DecidableEq, Repr

/-- A server with the answers to come, where none means a closed connection. -/
structure Server where
  origin : Origin
  script : List (Option Answer)
deriving DecidableEq, Repr

structure Scripted where
  server : Server
  jar : CookieJar := []
  now : Int := 0
deriving DecidableEq, Repr

def Answer.response (a : Answer) : Response :=
  { status := a.status
    text :=
      if a.status.isBodiless then .ok []
      else if a.cutShort then .error "error decoding response body".toList
      else .ok (Text.decodeMarked a.body) }

def Server.next (s : Server) : Option Answer × List (Option Answer) :=
  let isInterim := Option.any fun a : Answer => a.status.isInterim
  match s.script.dropWhile isInterim with
  | [] => (none, [])
  | answer? :: rest => (answer?, rest)

namespace Scripted

def request (s : Scripted) (call : Call) (url : Url) : Request :=
  { method := call.method
    target := url.target
    contentType := call.json?.map fun _ => "application/json".toList
    cookie := s.jar.header? url.origin.isTrusted url.path
    body := call.json?.getD [] }

def hear (s : Scripted) (url : Url) (rest : List (Option Answer)) (answer? : Option Answer) :
    Except Text Response × Scripted :=
  let s := { s with server.script := rest }
  match answer? with
  | none => (.error "error sending request".toList, s)
  | some answer =>
    let receive := CookieJar.receive url.origin.host.text url.path s.now
    (.ok answer.response, { s with jar := answer.cookies.foldl receive s.jar })

/-- An address that cannot be read, or that is not the server's, reaches nobody. -/
def send (call : Call) (s : Scripted) : Except Text Response × List Request × Scripted :=
  match Url.parse? call.address with
  | none => (.error "builder error".toList, [], s)
  | some url =>
    if url.origin = s.server.origin then
      let (answer?, rest) := s.server.next
      let (reply, after) := s.hear url rest answer?
      (reply, [s.request call url], after)
    else (.error "error sending request".toList, [], s)

end Scripted

def scripted : Library where
  State := Scripted
  start _ := .ok ()
  send := Scripted.send

end ConsoleAccess.Http
