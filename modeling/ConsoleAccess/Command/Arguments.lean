import ConsoleAccess.Text.Blank

/-!
The command line: options that hold for every command, one command, and its own options. An option
is written `--name` or by a letter; letters may be joined, and a value may stand in the same
argument or in the next one, where it may not start with a hyphen.
-/

namespace ConsoleAccess.Command

inductive Opt
  | verbose
  | config
  | help
  | version
  | session
  | resource
  | scope
  | matchAll
  | containsResource
  | wildcardGrants
  | disable
  | tooltip
deriving DecidableEq, Repr

namespace Opt

def long : Opt → String
  | .verbose => "verbose"
  | .config => "config"
  | .help => "help"
  | .version => "version"
  | .session => "session"
  | .resource => "resource"
  | .scope => "scope"
  | .matchAll => "match-all"
  | .containsResource => "contains-resource"
  | .wildcardGrants => "wildcard-grants"
  | .disable => "disable"
  | .tooltip => "tooltip"

def short? : Opt → Option Char
  | .verbose => some 'v'
  | .config => some 'c'
  | .help => some 'h'
  | .version => some 'V'
  | .resource => some 'r'
  | .scope => some 's'
  | _ => none

def takesValue : Opt → Bool
  | .config | .session | .resource | .scope | .tooltip => true
  | _ => false

def mayRepeat : Opt → Bool
  | .resource | .scope => true
  | _ => false

def accepts : Opt → Text → Bool
  | .config, value | .session, value => !value.isEmpty
  | _, _ => true

end Opt

/-- Options in the order given, with their values; a flag's value is empty. -/
abbrev Given := List (Opt × Text)

namespace Given

def has (g : Given) (o : Opt) : Bool := g.any fun p => p.1 == o

def values (g : Given) (o : Opt) : List Text := (g.filter fun p => p.1 == o).map Prod.snd

def value? (g : Given) (o : Opt) : Option Text := (g.values o).head?

def add? (g : Given) (o : Opt) (value : Text) : Option Given :=
  if (g.has o && !o.mayRepeat) || !o.accepts value then none else some (g ++ [(o, value)])

end Given

/-- What the options up to the first other argument amount to. -/
inductive Scan
  | options (given : Given) (rest : List Text)
  | version
  | help
  | wrong
deriving DecidableEq, Repr

def isValue (arg : Text) : Bool := arg.head? != some '-' || arg == ['-']

inductive Piece
  | given (g : Given)
  | pending (g : Given) (o : Opt)
  | version
  | help
  | wrong
deriving DecidableEq, Repr

def takeFlag (g : Given) (o : Opt) : Piece :=
  match o with
  | .help => .help
  | .version => .version
  | _ =>
    match g.add? o [] with
    | some g => .given g
    | none => .wrong

def takeValue (g : Given) (o : Opt) (value : Text) : Piece :=
  match g.add? o value with
  | some g => .given g
  | none => .wrong

def readLong (allowed : List Opt) (g : Given) (body : Text) : Piece :=
  let (name, value) := body.span (· != '=')
  match allowed.find? fun o => o.long.toList == name with
  | none => .wrong
  | some o =>
    match o.takesValue, value with
    | true, _ :: value => takeValue g o value
    | true, [] => .pending g o
    | false, [] => takeFlag g o
    | false, _ => .wrong

def readShort (allowed : List Opt) (g : Given) : Text → Piece
  | [] => .given g
  | c :: rest =>
    match allowed.find? fun o => o.short? == some c with
    | none => .wrong
    | some o =>
      if o.takesValue then
        match rest with
        | [] => .pending g o
        | '=' :: value => takeValue g o value
        | value => takeValue g o value
      else
        match takeFlag g o with
        | .given g => readShort allowed g rest
        | piece => piece

/-- Reads options until another argument comes. After two hyphens alone no option follows. -/
def scan (allowed : List Opt) (g : Given) (pending : Option Opt) : List Text → Scan
  | [] => if pending.isSome then .wrong else .options g []
  | arg :: args =>
    match pending with
    | some o =>
      if isValue arg then
        match takeValue g o arg with
        | .given g => scan allowed g none args
        | _ => .wrong
      else .wrong
    | none =>
      if arg = ['-', '-'] then if args.isEmpty then .options g [] else .wrong
      else if isValue arg then .options g (arg :: args)
      else
        let piece :=
          match arg with
          | '-' :: '-' :: body => readLong allowed g body
          | _ => readShort allowed g arg.tail
        match piece with
        | .given g => scan allowed g none args
        | .pending g o => scan allowed g (some o) args
        | .version => .version
        | .help => .help
        | .wrong => .wrong

/-! ## Commands -/

structure QueryOptions where
  session : Text
  resources : List Text
  scopes : List Text
  matchAll : Bool := false
  containsResource : Bool := false
deriving DecidableEq, Repr

inductive Action
  | check (query : QueryOptions) (wildcardGrants : Bool)
  | gate (query : QueryOptions) (disable : Bool) (tooltip : Option Text)
  | whoami
deriving DecidableEq, Repr

inductive Invocation
  | run (action : Action) (config : Option Text)
  | version
  | help
deriving DecidableEq, Repr

def everywhere : List Opt := [.verbose, .config, .help]

def queryOpts : List Opt := [.session, .resource, .scope, .matchAll, .containsResource]

def queryOptions? (g : Given) : Option QueryOptions :=
  match g.value? .session, g.values .resource, g.values .scope with
  | some session, r :: resources, s :: scopes =>
    some
      { session, resources := r :: resources, scopes := s :: scopes
        matchAll := g.has .matchAll, containsResource := g.has .containsResource }
  | _, _, _ => none

def checkAction? (g : Given) : Option Action :=
  (queryOptions? g).map fun q => .check q (g.has .wildcardGrants)

/-- A tooltip needs a disabled affordance. -/
def gateAction? (g : Given) : Option Action :=
  if g.has .tooltip && !g.has .disable then none
  else (queryOptions? g).map fun q => .gate q (g.has .disable) (g.value? .tooltip)

def commands : List (Text × List Opt × (Given → Option Action)) :=
  [("check".toList, queryOpts ++ [.wildcardGrants], checkAction?),
    ("gate".toList, queryOpts ++ [.disable, .tooltip], gateAction?),
    ("whoami".toList, [], fun _ => some .whoami)]

def isHelpTopic : List Text → Bool
  | [] => true
  | [topic] => topic == "help".toList || (commands.lookup topic).isSome
  | _ => false

/-- Reads the arguments of a command. Of two configuration files the one given last counts. -/
def parseCommand (given : Given) (name : Text) (args : List Text) : Option Invocation :=
  match commands.lookup name with
  | none => if name == "help".toList && isHelpTopic args then some .help else none
  | some (own, action?) =>
    match scan (everywhere ++ own) [] none args with
    | .options g [] =>
      (action? g).map fun action => .run action ((g.value? .config).or (given.value? .config))
    | .help => some .help
    | _ => none

def parse? (args : List Text) : Option Invocation :=
  match scan (everywhere ++ [.version]) [] none args with
  | .options g (name :: rest) => parseCommand g name rest
  | .version => some .version
  | .help => some .help
  | _ => none

end ConsoleAccess.Command
