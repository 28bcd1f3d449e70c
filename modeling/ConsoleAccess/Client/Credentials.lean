import ConsoleAccess.Json.Printer
import ConsoleAccess.Text.Quoted

/-!
Credentials for signing in. No text about them shows the secret key; only the login body carries it.
-/

namespace ConsoleAccess

structure Credentials where
  accessKey : Text
  secretKey : Text
deriving DecidableEq

namespace Credentials

def display (c : Credentials) : Text := c.accessKey

def redacted : Text := Text.quoted "<redacted>".toList

def describe (c : Credentials) : Text :=
  "Credentials \x7b access_key: ".toList ++ Text.quoted c.accessKey ++
    ", secret_key: ".toList ++ redacted ++ " \x7d".toList

def describeLines (c : Credentials) : Text :=
  "Credentials \x7b\n    access_key: ".toList ++ Text.quoted c.accessKey ++
    ",\n    secret_key: ".toList ++ redacted ++ ",\n\x7d".toList

def loginBody (c : Credentials) : Text :=
  Json.renderObject
    [("accessKey".toList, .string c.accessKey), ("secretKey".toList, .string c.secretKey)]

end Credentials
end ConsoleAccess
