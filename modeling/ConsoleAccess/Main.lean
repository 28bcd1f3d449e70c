import ConsoleAccess.Command.Run
import ConsoleAccess.Http.Scripted

/-!
The program's outer layer: it hands arguments, variables and the one file that is asked for to
`Command.run`, and prints what comes back. It opens no connections, so every request finds the
server closed.
-/

open ConsoleAccess

def commandFile (args : List Text) : Text :=
  match Command.parse? args with
  | some (.run (.check q _) _) => q.session
  | some (.run (.gate q _ _) _) => q.session
  | some (.run .whoami config) => config.getD Command.configFile
  | _ => []

def readContent (path : Text) : IO FileContent := do
  try
    let bytes ← IO.FS.readBinFile (String.ofList path)
    pure (.bytes bytes.toList)
  catch e =>
    match e with
    | .noFileOrDirectory .. => pure .missing
    | _ => pure .directory

def readVariable (name : Text) : IO (Option Text) := do
  let value ← IO.getEnv (String.ofList name)
  pure (value.map String.toList)

def main (args : List String) : IO UInt32 := do
  let args := args.map String.toList
  let path := commandFile args
  let content ← if path.isEmpty then pure .missing else readContent path
  let environment : Environment :=
    { accessKey := ← readVariable Environment.accessKeyName
      secretKey := ← readVariable Environment.secretKeyName }
  let closed : Http.Server :=
    { origin := { secure := false, host := .name "localhost".toList, port := 9090 }, script := [] }
  let surroundings : Command.Surroundings Http.scripted :=
    { files := fun p => if p = path then content else .missing
      environment
      link := { state := { server := closed } } }
  let (outcome, _) := Command.run args surroundings
  IO.print (String.ofList outcome.stdout)
  match outcome.error with
  | some failure => IO.eprintln ("Error: " ++ String.ofList failure.message)
  | none => pure ()
  pure (UInt32.ofNat outcome.exit)
