import ConsoleAccess.Json.Reader
import ConsoleAccess.Policy.Session

/-!
Session payloads: what a server says about a signed-in user. Statements are kept raw in the payload
and are validated once, when the session is built; one that does not validate grants and denies
nothing.

* `Payload.read?`: from text. Members of other names are ignored.
* `Payload.session`: raw statements first, then the legacy permissions, which never replace a
  statement.
-/

namespace ConsoleAccess

namespace Statement

def oneOrMany? : Json → Option (List Text)
  | .string t => some [t]
  | .array items => items.mapM Json.text?
  | _ => none

def ofValues? (effect actions resources : Json) : Option Statement :=
  match effect.text?, oneOrMany? actions, oneOrMany? resources with
  | some e, some a, some r => (Statement.parse e a r).toOption
  | _, _, _ => none

/-- Reads a raw statement: an object with each of the three members once, under either of its names,
or an array of the three in order. -/
def ofJson? : Json → Option Statement
  | .object members =>
    match Json.soleMember? ["effect".toList, "Effect".toList] members,
      Json.soleMember? ["actions".toList, "Action".toList] members,
      Json.soleMember? ["resources".toList, "Resource".toList] members with
    | some (some effect), some (some actions), some (some resources) =>
      ofValues? effect actions resources
    | _, _, _ => none
  | .array [effect, actions, resources] => ofValues? effect actions resources
  | _ => none

def ofPermission? (resource : Text) (actions : Json) : Option Statement :=
  (oneOrMany? actions).bind fun a => (Statement.make .allow a [resource]).toOption

end Statement

structure Payload where
  identity : Option Text := none
  statements : Dictionary Json := ∅
  permissions : Dictionary Json := ∅

namespace Payload

def valueNesting : Nat := Json.maxNesting - 2

def identity? : Json.Tree → Option (Option Text)
  | .null => some none
  | .string (some t) => some (some t)
  | _ => none

def map? : Json.Tree → Option (Dictionary Json)
  | .object members =>
    (Json.Tree.memberValues? valueNesting members).map fun ms => .ofList ms compare
  | _ => none

def ofParts? (identity statements permissions : Option Json.Tree) : Option Payload :=
  match identity.elim (some none) identity?, statements.elim (some ∅) map?,
    permissions.elim (some ∅) map? with
  | some identity, some statements, some permissions =>
    some { identity, statements, permissions }
  | _, _, _ => none

/-- Reads an object of named parts, none of them twice, or an array of the parts in order. -/
def ofTree? : Json.Tree → Option Payload
  | .object members =>
    match Json.named? members with
    | none => none
    | some members =>
      match Json.soleMember? ["identity".toList, "accessKey".toList] members,
        Json.soleMember? ["statements".toList] members,
        Json.soleMember? ["permissions".toList] members with
      | some identity, some statements, some permissions =>
        ofParts? identity statements permissions
      | _, _, _ => none
  | .array [] => some {}
  | .array [identity] => ofParts? identity none none
  | .array [identity, statements] => ofParts? identity statements none
  | .array [identity, statements, permissions] => ofParts? identity statements permissions
  | _ => none

def read? (text : Text) : Option Payload := (Json.Tree.read? text).bind ofTree?

/-! ## Sessions -/

def permissionId (resource : Text) : Text := "permissions:".toList ++ resource

def validStatements (p : Payload) : Dictionary Statement :=
  p.statements.filterMap fun _ raw => Statement.ofJson? raw

def addPermission (statements : Dictionary Statement) (permission : Text × Json) :
    Dictionary Statement :=
  match Statement.ofPermission? permission.1 permission.2 with
  | some statement => statements.insertIfNew (permissionId permission.1) statement
  | none => statements

def session (p : Payload) : Session where
  identity := p.identity.getD []
  statements := p.permissions.toList.foldl addPermission p.validStatements

end Payload

inductive PayloadError
  | unparsable
  | unreadable
deriving DecidableEq, Repr

/-- The message up to what the JSON reader, or the system, says of its own. The reader's words depend
on the text alone. -/
def PayloadError.message : PayloadError → Text
  | .unparsable => "failed to parse session payload".toList
  | .unreadable => "IO error".toList

namespace Payload

def parse (text : Text) : Except PayloadError Payload :=
  match read? text with
  | some p => .ok p
  | none => .error .unparsable

def load (bytes : List UInt8) : Except PayloadError Payload :=
  match Utf8.decode? bytes with
  | some text => parse text
  | none => .error .unreadable

end Payload
end ConsoleAccess
