import ConsoleAccess.Client.Basic
import ConsoleAccess.Command.Arguments
import ConsoleAccess.Command.Files
import ConsoleAccess.Command.Listing
import ConsoleAccess.Config
import ConsoleAccess.Policy.Gate
import ConsoleAccess.Policy.Grants

/-!
Running commands: `check` and `gate` answer a query on a session in a file, and `whoami` signs in to
a server and lists what it grants.
-/

namespace ConsoleAccess.Command

inductive Failure
  | sessionFileMissing (path : Text)
  | payload (error : PayloadError)
  | config (error : ConfigError)
  | client (error : ClientError)
deriving DecidableEq, Repr

def Failure.message : Failure → Text
  | .sessionFileMissing path => "session file not found at ".toList ++ path
  | .payload error => error.message
  | .config error => "config error: ".toList ++ error.message
  | .client error => error.message

structure Outcome where
  exit : Nat
  stdout : Text := []
  error : Option Failure := none
deriving DecidableEq, Repr

def Outcome.failed (error : Failure) : Outcome := { exit := 1, error := some error }

structure Surroundings (library : Http.Library) where
  files : Text → FileContent
  environment : Environment
  link : Link library

variable {library : Http.Library}

/-! ## Offline commands -/

def loadSnapshot (s : Surroundings library) (path : Text) : Except Failure Snapshot :=
  match s.files path with
  | .missing => .error (.sessionFileMissing path)
  | .directory => .error (.payload .unreadable)
  | .bytes content =>
    match Payload.load content with
    | .ok payload => .ok (Auth.establish payload {}).1
    | .error e => .error (.payload e)

def QueryOptions.query (q : QueryOptions) : Query :=
  let query : Query := { resources := q.resources, scopes := q.scopes }
  let query := if q.matchAll then query.matchingAll else query
  if q.containsResource then query.containing else query

def deniedExit : Nat := 2

def check (snapshot : Snapshot) (q : QueryOptions) (wildcardGrants : Bool) : Outcome :=
  let path := q.resources.head?.getD []
  let query :=
    if wildcardGrants then q.query.withResources (snapshot.wildcardGrants path q.scopes)
    else q.query
  if snapshot.grants query then { exit := 0, stdout := "allow\n".toList }
  else { exit := deniedExit, stdout := "deny\n".toList }

def QueryOptions.gate (q : QueryOptions) (disable : Bool) (tooltip : Option Text) : Gate :=
  let gate := Gate.ofAccess q.resources q.scopes
  let gate := if q.matchAll then gate.matchingAll else gate
  let gate := if q.containsResource then gate.containing else gate
  if disable then
    gate.withErrorProps (tooltip.elim .disabling ErrorProps.disabling.withTooltip)
  else gate

def renderProps (props : ErrorProps) : Text :=
  Json.renderObject
    (("disabled".toList, .bool props.disabled) ::
      (props.tooltip.map fun t => ("tooltip".toList, Json.Scalar.string t)).toList)

def verdictText : Verdict → Text
  | .render => "render".toList
  | .hide => "hide".toList
  | .disable props => "disable ".toList ++ renderProps props

def gate (snapshot : Snapshot) (q : QueryOptions) (disable : Bool) (tooltip : Option Text) :
    Outcome :=
  { exit := 0, stdout := verdictText ((q.gate disable tooltip).decide snapshot) ++ ['\n'] }

/-! ## Signing in -/

def configFile : Text := "bucketgate.toml".toList

def loadConfig (s : Surroundings library) (path? : Option Text) : Except ConfigError Config :=
  match s.files (path?.getD configFile) with
  | .bytes content => Config.load content
  | .directory => .error .unreadable
  | .missing => if path?.isSome then .error .unreadable else .ok {}

/-- Signs in, lists what the session grants, and signs out; a failure to sign out is passed over. -/
def whoami (s : Surroundings library) (path? : Option Text) : Outcome × Link library :=
  match loadConfig s path? with
  | .error e => (.failed (.config e), s.link)
  | .ok config =>
    match config.credentials s.environment with
    | .error e => (.failed (.config e), s.link)
    | .ok credentials =>
      match Client.build library config.url config.timeoutSeconds with
      | .error e => (.failed (.client e), s.link)
      | .ok client =>
        match client.signIn credentials s.link with
        | (.error e, link) => (.failed (.client e), link)
        | (.ok snapshot, link) =>
          let (_, link) := client.logout link
          ({ exit := 0, stdout := Listing.render snapshot }, link)

/-! ## All commands -/

def offline (s : Surroundings library) (path : Text) (answer : Snapshot → Outcome) : Outcome :=
  match loadSnapshot s path with
  | .ok snapshot => answer snapshot
  | .error e => .failed e

def perform (s : Surroundings library) (action : Action) (config : Option Text) :
    Outcome × Link library :=
  match action with
  | .check q wildcardGrants =>
    (offline s q.session fun snapshot => check snapshot q wildcardGrants, s.link)
  | .gate q disable tooltip =>
    (offline s q.session fun snapshot => gate snapshot q disable tooltip, s.link)
  | .whoami => whoami s config

def usageExit : Nat := 2

def versionText : Text := "bucketgate 0.1.0\n".toList

def helpText : Text :=
  ("Evaluate object-storage console permissions\n\n" ++
    "Usage: bucketgate [OPTIONS] <COMMAND>\n\n" ++
    "Commands:\n" ++
    "  check   Evaluate an access query (exit status 2 when denied)\n" ++
    "  gate    Print the display verdict for a gated affordance\n" ++
    "  whoami  Sign in to the console server and list the granted statements\n" ++
    "  help    Print this message or the help of the given subcommand(s)\n").toList

def run (args : List Text) (s : Surroundings library) : Outcome × Link library :=
  match parse? args with
  | none => ({ exit := usageExit }, s.link)
  | some .version => ({ exit := 0, stdout := versionText }, s.link)
  | some .help => ({ exit := 0, stdout := helpText }, s.link)
  | some (.run action config) => perform s action config

end ConsoleAccess.Command
