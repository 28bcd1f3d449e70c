import ConsoleAccess.Http.CookieDate
import ConsoleAccess.Text.Case
import ConsoleAccess.Text.HostForm

/-!
Cookies of one server. A jar keeps what the server sets, each cookie under its name and path, and
names for a request those whose path leads to the requested one: longer paths first, then older
cookies.
-/

namespace ConsoleAccess.Http

structure Cookie where
  name : Text
  value : Text
  path : Text
  secure : Bool
deriving DecidableEq, Repr

namespace Cookie

def pair (t : Text) : Text × Option Text :=
  match t.span (· != '=') with
  | (name, _ :: value) => (Text.trim name, some (Text.trim value))
  | (name, []) => (Text.trim name, none)

/-- What follows the name and value of a cookie; names are told apart without regard to case. -/
abbrev Attributes := List (Text × Option Text)

def Attributes.ofParts (parts : List Text) : Attributes :=
  parts.map fun part =>
    let (name, value) := pair part
    (name.lower, value)

/-- The value of the last attribute of a name that has a value which `accept` can use. -/
def Attributes.last? {β : Type} (attributes : Attributes) (name : String)
    (accept : Text → Option β) : Option β :=
  ((attributes.filter fun a => a.1 == name.toList).filterMap fun a => a.2.bind accept).getLast?

def defaultPath (requestPath : Text) : Text :=
  let directory := ((requestPath.reverse.dropWhile (· != '/')).drop 1).reverse
  if directory.isEmpty then ['/'] else directory

/-- A path attribute that is not absolute counts as the default path. -/
def pathOf (attributes : Attributes) (requestPath : Text) : Text :=
  match attributes.last? "path" some with
  | some ('/' :: rest) => '/' :: rest
  | _ => defaultPath requestPath

inductive Age
  | over
  | seconds (count : Nat)
  | unbounded
deriving DecidableEq, Repr

/-- Reads a number of seconds. One with a minus sign is over; no digits set no bound. -/
def Age.parse? (t : Text) : Option Age :=
  match t with
  | '-' :: digits => if digits.all isDigit then some .over else none
  | [] => some .unbounded
  | digits => if digits.all isDigit then some (.seconds (digitsValue digits)) else none

def Age.isOver : Age → Bool
  | .over => true
  | .seconds count => count == 0
  | .unbounded => false

/-- A maximal age counts before a date of expiry. -/
def isExpired (attributes : Attributes) (now : Int) : Bool :=
  match attributes.last? "max-age" Age.parse?,
      attributes.last? "expires" CookieDate.seconds? with
  | some age, _ => age.isOver
  | none, some expiry => expiry ≤ now
  | none, none => false

/-- A domain attribute must name the server, which has no domains above it. An empty one says
nothing, and one dot before it does not count. -/
def domainFits (attributes : Attributes) (host : Text) : Bool :=
  let accept := fun value : Text => if value.isEmpty then none else some value
  match attributes.last? "domain" accept with
  | some value =>
    let domain :=
      match value with
      | '.' :: rest => rest
      | _ => value
    let domain := Text.hostForm (Text.trim domain)
    domain.isEmpty || domain == host
  | none => true

def parse? (host requestPath : Text) (now : Int) (header : Text) : Option (Cookie × Bool) :=
  match header.splitOn ';' with
  | [] => none
  | first :: rest =>
    let attributes := Attributes.ofParts rest
    match pair first with
    | (_, none) => none
    | (name, some value) =>
      if name.isEmpty || !domainFits attributes host then none
      else
        let cookie : Cookie :=
          { name, value, path := pathOf attributes requestPath
            secure := attributes.any fun a => a.1 == "secure".toList }
        some (cookie, isExpired attributes now)

def pathLeadsTo (cookiePath requestPath : Text) : Bool :=
  match cookiePath.isPrefixOf? requestPath with
  | some [] => true
  | some (c :: _) => c == '/' || cookiePath.getLast? == some '/'
  | none => false

end Cookie

abbrev CookieJar := List Cookie

namespace CookieJar

def insert (jar : CookieJar) (cookie : Cookie) : CookieJar :=
  let same := fun c : Cookie => c.name == cookie.name && c.path == cookie.path
  if jar.any same then jar.map fun c => if same c then cookie else c else jar ++ [cookie]

def erase (jar : CookieJar) (cookie : Cookie) : CookieJar :=
  jar.filter fun c => !(c.name == cookie.name && c.path == cookie.path)

def receive (host requestPath : Text) (now : Int) (jar : CookieJar) (header : Text) : CookieJar :=
  match Cookie.parse? host requestPath now header with
  | some (cookie, true) => erase jar cookie
  | some (cookie, false) => insert jar cookie
  | none => jar

/-- The header for a request, if a cookie goes with it. Secure cookies go to trusted servers alone.
-/
def header? (jar : CookieJar) (trusted : Bool) (requestPath : Text) : Option Text :=
  let fitting := jar.filter fun c =>
    (trusted || !c.secure) && Cookie.pathLeadsTo c.path requestPath
  match fitting.mergeSort fun a b => b.path.length ≤ a.path.length with
  | [] => none
  | cookies => some ("; ".toList.intercalate (cookies.map fun c => c.name ++ '=' :: c.value))

end CookieJar
end ConsoleAccess.Http
