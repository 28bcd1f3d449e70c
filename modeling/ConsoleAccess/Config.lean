import ConsoleAccess.Client.Credentials
import ConsoleAccess.Text.Utf8
import ConsoleAccess.Toml.Reader

/-!
Configuration: the server to sign in to and the credentials for it. Every part has a default except
the credentials, which the environment may give in the place of the file.
-/

namespace ConsoleAccess

inductive ConfigError
  | unreadable
  | unparsable
  | missingCredentials
  | incompleteCredentials
deriving DecidableEq, Repr

/-- The message up to what the TOML reader, or the system, says of its own. -/
def ConfigError.message : ConfigError → Text
  | .unreadable => "failed to read config".toList
  | .unparsable => "failed to parse config".toList
  | .missingCredentials =>
    ("credentials not configured: set credentials.access_key and credentials.secret_key " ++
      "or BUCKETGATE_ACCESS_KEY and BUCKETGATE_SECRET_KEY").toList
  | .incompleteCredentials =>
    "incomplete credentials: both an access key and a secret key are required".toList

structure Config where
  url : Text := "http://localhost:9090".toList
  timeoutSeconds : Nat := 30
  accessKey : Option Text := none
  secretKey : Option Text := none
deriving DecidableEq

/-- The variables that count, where an empty one is set. -/
structure Environment where
  accessKey : Option Text := none
  secretKey : Option Text := none
deriving DecidableEq

namespace Environment

def accessKeyName : Text := "BUCKETGATE_ACCESS_KEY".toList

def secretKeyName : Text := "BUCKETGATE_SECRET_KEY".toList

def ofVariables (pairs : List (Text × Text)) : Environment :=
  { accessKey := pairs.lookup accessKeyName, secretKey := pairs.lookup secretKeyName }

end Environment

namespace Config

open Toml (Node Entries)

/-- The fields of a record: its named entries, or its items in order. A date is a record without
fields. Entries that are no fields are passed over, but the numbers in them must be numbers; items
that are no fields are not looked at. -/
inductive Fields
  | named (entries : Entries)
  | ordered (items : List Node)

def fields? : Node → Option Fields
  | .table _ entries => if Toml.entriesHaveValues entries then some (.named entries) else none
  | .array items => some (.ordered items)
  | .scalar .datetime => some (.named [])
  | _ => none

def Fields.get? (f : Fields) (name : String) (position : Nat) : Option Node :=
  match f with
  | .named entries => entries.find? name.toList
  | .ordered items => items[position]?

def string? : Node → Option Text
  | .scalar (.string t) => some t
  | _ => none

def word64? : Node → Option Nat
  | .scalar (.integer (some n)) => if 0 ≤ n && n.toNat < 1 <<< 64 then some n.toNat else none
  | _ => none

def optional {α : Type} (read : Node → Option α) (node? : Option Node) : Option (Option α) :=
  match node? with
  | some node => (read node).map some
  | none => some none

def withServer (c : Config) (node : Node) : Option Config :=
  match fields? node with
  | none => none
  | some f =>
    match optional string? (f.get? "url" 0), optional word64? (f.get? "timeout_secs" 1) with
    | some url?, some timeout? =>
      some { c with url := url?.getD c.url, timeoutSeconds := timeout?.getD c.timeoutSeconds }
    | _, _ => none

def withCredentials (c : Config) (node : Node) : Option Config :=
  match fields? node with
  | none => none
  | some f =>
    match f, optional string? (f.get? "access_key" 0), optional string? (f.get? "secret_key" 1) with
    | .named _, some accessKey, some secretKey => some { c with accessKey, secretKey }
    | .ordered _, some (some a), some (some s) => some { c with accessKey := a, secretKey := s }
    | _, _, _ => none

def withPart (c : Config) (take : Config → Node → Option Config) (node? : Option Node) :
    Option Config :=
  match node? with
  | some node => take c node
  | none => some c

/-- Takes the parts of a document; what else it holds must only be readable. -/
def ofRoot? (root : Entries) : Option Config :=
  let server := "server".toList
  let credentials := "credentials".toList
  let others := root.filter fun e => e.1 != server && e.1 != credentials
  if Toml.entriesHaveValues others then
    (withPart {} withServer (root.find? server)).bind fun c =>
      withPart c withCredentials (root.find? credentials)
  else none

def parse (text : Text) : Except ConfigError Config :=
  match (Toml.read? text).bind ofRoot? with
  | some c => .ok c
  | none => .error .unparsable

def load (bytes : List UInt8) : Except ConfigError Config :=
  match Utf8.decode? bytes with
  | some text => parse text
  | none => .error .unreadable

def credentials (c : Config) (env : Environment) : Except ConfigError Credentials :=
  match env.accessKey.or c.accessKey, env.secretKey.or c.secretKey with
  | some accessKey, some secretKey => .ok { accessKey, secretKey }
  | none, none => .error .missingCredentials
  | _, _ => .error .incompleteCredentials

end Config
end ConsoleAccess
