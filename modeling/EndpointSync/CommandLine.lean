import EndpointSync.Config
import EndpointSync.SocketAddress

/-!
# The command line

Every setting has a long flag, and its value stands behind an equals sign or as the next argument. A
flag that is repeated is an error, except for the list of kinds, which then goes on. Two settings
fall back to the environment.

A value that stands as the next argument is looked at only when the argument after it has been
recognised. So an unknown argument is reported rather than a bad value before it.
-/

namespace EndpointSync

/-- How the log is written. -/
inductive LogFormat where
  | plain | json
deriving DecidableEq, Repr, Inhabited

def LogFormat.name : LogFormat → String
  | .plain => "plain"
  | .json => "json"

/-- The settings of a program. -/
structure Arguments where
  logLevel : String := "gatus_sidecar=info,warn"
  logFormat : LogFormat := .plain
  /-- The credentials to use, where they are not the usual ones. -/
  context : Option String := none
  cluster : Option String := none
  user : Option String := none
  adminAddress : SocketAddress := .v4 [0, 0, 0, 0] 8080
  config : Config := {}
deriving DecidableEq, Repr, Inhabited

namespace CommandLine

/-- What a flag sets or asks for. -/
inductive Setting where
  | logLevel | logFormat | context | cluster | user | adminAddress
  | namespaceName | gatewayName | ingressClass | autoGroup
  | auto (kind : Kind)
  | kinds | output | defaultInterval | enabledKey | templateKey | reconnectDelay
  | help | version
deriving DecidableEq, Repr

def Setting.ofFlag? : String → Option Setting
  | "log-level" => some .logLevel
  | "log-format" => some .logFormat
  | "context" => some .context
  | "cluster" => some .cluster
  | "user" => some .user
  | "admin-addr" => some .adminAddress
  | "namespace" => some .namespaceName
  | "gateway-name" => some .gatewayName
  | "ingress-class" => some .ingressClass
  | "auto-group" => some .autoGroup
  | "auto-httproute" => some (.auto .httpRoute)
  | "auto-ingress" => some (.auto .ingress)
  | "auto-service" => some (.auto .service)
  | "auto-ingressroute" => some (.auto .ingressRoute)
  | "resources" => some .kinds
  | "output" => some .output
  | "default-interval" => some .defaultInterval
  | "enabled-annotation" => some .enabledKey
  | "template-annotation" => some .templateKey
  | "reconnect-delay" => some .reconnectDelay
  | "help" => some .help
  | "version" => some .version
  | _ => none

def Setting.ofShortFlag? : Char → Option Setting
  | 'h' => some .help
  | 'V' => some .version
  | _ => none

def Setting.takesValue (s : Setting) : Bool := s ≠ .autoGroup && s ≠ .help && s ≠ .version

/-- Why the program does not start. -/
inductive Refusal where
  | unknownArgument
  /-- A value for a flag that has none. -/
  | unwantedValue
  | repeatedFlag
  /-- A value is missing, empty where it must not be, or none of those there are. -/
  | badValue
  /-- A value does not read as what it should be. -/
  | malformedValue
  | helpWanted
  | versionWanted
deriving DecidableEq, Repr

/-! ## Values -/

def truth? : String → Option Bool
  | "true" => some true
  | "false" => some false
  | _ => none

def format? : String → Option LogFormat
  | "plain" => some .plain
  | "json" => some .json
  | _ => none

/-- A value, or the refusal of it. -/
def require {α : Type} (why : Refusal) : Option α → Except Refusal α
  | some a => .ok a
  | none => .error why

def setAuto (c : Config) (on : Bool) : Kind → Config
  | .httpRoute => { c with autoHttpRoute := on }
  | .ingress => { c with autoIngress := on }
  | .service => { c with autoService := on }
  | .ingressRoute => { c with autoIngressRoute := on }

/-- Gives a setting a value. `again` tells that the setting had one before. -/
def assign (a : Arguments) (again : Bool) (setting : Setting) (value : String) :
    Except Refusal Arguments := do
  let c := a.config
  match setting with
  | .logLevel => .ok { a with logLevel := value }
  | .logFormat => .ok { a with logFormat := ← require .badValue (format? value) }
  | .context => .ok { a with context := some value }
  | .cluster => .ok { a with cluster := some value }
  | .user => .ok { a with user := some value }
  | .adminAddress =>
    .ok { a with adminAddress := ← require .malformedValue (SocketAddress.ofString? value) }
  | .namespaceName => .ok { a with config := { c with namespaceName := some value } }
  | .gatewayName => .ok { a with config := { c with gatewayName := some value } }
  | .ingressClass => .ok { a with config := { c with ingressClass := some value } }
  | .autoGroup => .ok { a with config := { c with autoGroup := true } }
  | .auto kind => .ok { a with config := setAuto c (← require .badValue (truth? value)) kind }
  | .kinds =>
    let added ← (value.splitOn ",").mapM fun name ↦ require .badValue (Kind.ofName? name)
    .ok { a with config := { c with kinds := if again then c.kinds ++ added else added } }
  | .output =>
    if value = "" then .error .badValue else .ok { a with config := { c with output := value } }
  | .defaultInterval =>
    let i ← require .malformedValue (Interval.ofChars? value.toList)
    .ok { a with config := { c with defaultInterval := i } }
  | .enabledKey => .ok { a with config := { c with enabledKey := value } }
  | .templateKey => .ok { a with config := { c with templateKey := value } }
  | .reconnectDelay =>
    let i ← require .malformedValue (Interval.ofChars? value.toList)
    .ok { a with config := { c with reconnectDelay := i } }
  | .help => .error .helpWanted
  | .version => .error .versionWanted

/-! ## Arguments -/

/-- How far the arguments have been read. -/
structure Reading where
  arguments : Arguments
  seen : List Setting := []
  /-- A flag that waits for its value, or whose value waits to be looked at. -/
  waiting : Option (Setting × Option String) := none
  /-- No more flags follow. -/
  flagsOver : Bool := false

namespace Reading

/-- Takes up a flag with its value. -/
def take (r : Reading) (setting : Setting) (value : String) : Except Refusal Reading := do
  let again := r.seen.contains setting
  if again && setting ≠ .kinds then .error .repeatedFlag
  else
    let arguments ← assign r.arguments again setting value
    .ok { r with arguments, seen := setting :: r.seen }

/-- Takes up the flag that waits, if one does. -/
def settle (r : Reading) : Except Refusal Reading :=
  match r.waiting with
  | none => .ok r
  | some (_, none) => .error .badValue
  | some (setting, some value) => { r with waiting := none }.take setting value

def longFlag (r : Reading) (name : String) (value : Option String) : Except Refusal Reading := do
  match Setting.ofFlag? name, value with
  | none, _ => .error .unknownArgument
  | some setting, none =>
    let r ← r.settle
    if setting.takesValue then .ok { r with waiting := some (setting, none) }
    else r.take setting ""
  | some setting, some value =>
    if setting.takesValue then (← r.settle).take setting value else .error .unwantedValue

def shortFlags (r : Reading) : List Char → Except Refusal Reading
  | [] => .ok r
  | c :: rest => do
    match Setting.ofShortFlag? c with
    | none => .error .unknownArgument
    | some setting => shortFlags (← (← r.settle).take setting "") rest

/-- Reads an argument that is no flag: the value of the flag that waits for one. -/
def plain (r : Reading) (arg : String) : Except Refusal Reading :=
  match r.waiting with
  | some (setting, none) => .ok { r with waiting := some (setting, some arg) }
  | _ => .error .unknownArgument

def argument (r : Reading) (arg : String) : Except Refusal Reading :=
  if r.flagsOver then .error .unknownArgument
  else match arg.toList with
    | ['-', '-'] => .ok { r with flagsOver := true }
    | '-' :: '-' :: rest =>
      let name := rest.takeWhile (· ≠ '=')
      let value := match rest.dropWhile (· ≠ '=') with
        | _ :: v => some (String.ofList v)
        | [] => none
      r.longFlag (String.ofList name) value
    | '-' :: c :: rest => r.shortFlags (c :: rest)
    | _ => r.plain arg

end Reading

/-- The variables of the environment that settings fall back to. -/
structure Environment where
  namespaceName : Option String := none
  logLevel : Option String := none

/-- The settings before any argument is read. -/
def initial (env : Environment) : Arguments :=
  let d : Arguments := {}
  { d with
    logLevel := env.logLevel.getD d.logLevel
    config := { d.config with namespaceName := env.namespaceName } }

def parse (env : Environment) (args : List String) : Except Refusal Arguments := do
  let r ← args.foldlM Reading.argument { arguments := initial env }
  .ok (← r.settle).arguments

end CommandLine

namespace Config

/-- The parts of a path. Repeated slashes and single points between them do not count. -/
def pathParts (path : String) : List String :=
  let parts := path.splitOn "/"
  let inner := (parts.drop 1).filter fun p ↦ p ≠ "" && p ≠ "."
  (parts.take 1) ++ inner

/-- Nothing was configured. The output counts by the file that it leads to, not by its spelling. -/
def isDefault (c : Config) : Bool :=
  let d : Config := {}
  pathParts c.output == pathParts d.output && { c with output := d.output } == d

end Config

end EndpointSync
