import ConsoleAccess.Auth.Flow
import ConsoleAccess.Client.Credentials
import ConsoleAccess.Http.Library

/-!
The client of a console server: it signs in with credentials, fetches the session and signs out, by
whatever library speaks HTTP for it. Every refusal passes through the authentication flow, so a
session that the server no longer knows is dropped from the cache before the caller hears of it.

* `Client.perform`: one operation, with what it returns and what it leaves behind.
-/

namespace ConsoleAccess

inductive ClientError
  | emptyUrl
  /-- The library cannot be used, in its own words. -/
  | setup (text : Text)
  /-- No answer, or none whose body can be read, in the library's own words. -/
  | network (text : Text)
  | refused (status : Http.Status) (body : Text)
  | invalidSession
  | payload (error : PayloadError)
deriving DecidableEq, Repr

def ClientError.message : ClientError → Text
  | .emptyUrl => "config error: server url is empty".toList
  | .setup text => "config error: ".toList ++ text
  | .network text => "network error: ".toList ++ text
  | .refused status body => "API error: ".toList ++ status.text ++ ": ".toList ++ body
  | .invalidSession => "invalid session: sign in again".toList
  | .payload error => error.message

structure Client where
  base : Text
  timeoutSeconds : Nat := 30
deriving DecidableEq, Repr

/-- What a client works on: the library as it stands, the policy cache, and the calls so far. -/
structure Link (library : Http.Library) where
  state : library.State
  cache : Cache := {}
  log : List Http.Exchange := []

namespace Client
variable {library : Http.Library}

def apiPath : Text := "/api/v1".toList

def dropTrailing (c : Char) (t : Text) : Text := (t.reverse.dropWhile (· == c)).reverse

def build (library : Http.Library) (url : Text) (timeoutSeconds : Nat := 30) :
    Except ClientError Client :=
  let base := dropTrailing '/' url.trim
  if base.isEmpty then .error .emptyUrl
  else
    match library.start timeoutSeconds with
    | .error text => .error (.setup text)
    | .ok () => .ok { base, timeoutSeconds }

def address (client : Client) (path : Text) : Text := client.base ++ apiPath ++ path

def call (client : Client) (method : Http.Method) (path : Text) (json? : Option Text) : Http.Call :=
  { method, address := client.address path, json?, timeoutSeconds := client.timeoutSeconds }

def send (client : Client) (method : Http.Method) (path : Text) (json? : Option Text)
    (link : Link library) : Except Text Http.Response × Link library :=
  let (exchange, state) := library.exchange (client.call method path json?) link.state
  (exchange.reply, { link with state, log := link.log ++ [exchange] })

/-- Passes a success on. A refusal is shown to the authentication flow; if its body cannot be read,
the body counts as empty. -/
def check (response : Http.Response) (link : Link library) :
    Except ClientError Http.Response × Link library :=
  if response.status.isSuccess then (.ok response, link)
  else
    let body := response.text.toOption.getD []
    match Auth.observe response.status body link.cache with
    | (.redirectToLogin, cache) => (.error .invalidSession, { link with cache })
    | (.proceed, cache) => (.error (.refused response.status body), { link with cache })

def login (client : Client) (credentials : Credentials) (link : Link library) :
    Except ClientError Unit × Link library :=
  match client.send .post "/login".toList (some credentials.loginBody) link with
  | (.error text, link) => (.error (.network text), link)
  | (.ok response, link) =>
    match check response link with
    | (.ok _, link) => (.ok (), link)
    | (.error e, link) => (.error e, link)

def readPayload (response : Http.Response) : Except ClientError Payload :=
  match response.text with
  | .error text => .error (.network text)
  | .ok body =>
    match Payload.parse body with
    | .ok payload => .ok payload
    | .error e => .error (.payload e)

def session (client : Client) (link : Link library) :
    Except ClientError Payload × Link library :=
  match client.send .get "/session".toList none link with
  | (.error text, link) => (.error (.network text), link)
  | (.ok response, link) =>
    match check response link with
    | (.ok response, link) => (readPayload response, link)
    | (.error e, link) => (.error e, link)

def establish (payload : Payload) (link : Link library) : Snapshot × Link library :=
  let (snapshot, cache) := Auth.establish payload link.cache
  (snapshot, { link with cache })

def signIn (client : Client) (credentials : Credentials) (link : Link library) :
    Except ClientError Snapshot × Link library :=
  match client.login credentials link with
  | (.error e, link) => (.error e, link)
  | (.ok (), link) =>
    match client.session link with
    | (.error e, link) => (.error e, link)
    | (.ok payload, link) =>
      let (snapshot, link) := establish payload link
      (.ok snapshot, link)

/-- Ends the session. The cache is cleared whatever the server says. -/
def logout (client : Client) (link : Link library) : Except ClientError Unit × Link library :=
  let (reply, link) := client.send .post "/logout".toList none link
  let link := { link with cache := Auth.finish link.cache }
  match reply with
  | .error text => (.error (.network text), link)
  | .ok response =>
    match check response link with
    | (.ok _, link) => (.ok (), link)
    | (.error e, link) => (.error e, link)

/-! ## Runs -/

inductive Operation
  | login (credentials : Credentials)
  | session
  | signIn (credentials : Credentials)
  | logout
  | establish (payload : Payload)

inductive Reply
  | done
  | payload (p : Payload)
  | snapshot (s : Snapshot)

def perform (client : Client) (operation : Operation) (link : Link library) :
    Except ClientError Reply × Link library :=
  match operation with
  | .login credentials =>
    let (result, link) := client.login credentials link
    (result.map fun _ => .done, link)
  | .session =>
    let (result, link) := client.session link
    (result.map Reply.payload, link)
  | .signIn credentials =>
    let (result, link) := client.signIn credentials link
    (result.map Reply.snapshot, link)
  | .logout =>
    let (result, link) := client.logout link
    (result.map fun _ => .done, link)
  | .establish payload =>
    let (snapshot, link) := establish payload link
    (.ok (.snapshot snapshot), link)

def run (client : Client) (operations : List Operation) (link : Link library) : Link library :=
  operations.foldl (fun link operation => (client.perform operation link).2) link

end Client
end ConsoleAccess
