import FramedTransport.Address.Reader
import FramedTransport.Duration.Reader

/-!
The command line: named options with a value each.
A value comes from the arguments, else from the option's environment variable,
else from its default. An option that waits for its value gets the next word,
and is judged only when something else shows that it got all it will get.
-/

namespace FramedTransport

inductive TransportKind where
  | stream
  | datagram
deriving DecidableEq, Repr

inductive LogLevel where
  | trace
  | debug
  | info
  | warn
  | error
deriving DecidableEq, Repr

namespace TransportKind

def name : TransportKind → String
  | .stream => "stream"
  | .datagram => "datagram"

def ofName? (name : String) : Option TransportKind :=
  [stream, datagram].find? fun kind => kind.name = name

end TransportKind

namespace LogLevel

def name : LogLevel → String
  | .trace => "trace"
  | .debug => "debug"
  | .info => "info"
  | .warn => "warn"
  | .error => "error"

def ofName? (name : String) : Option LogLevel :=
  [trace, debug, info, warn, error].find? fun level => level.name = name

end LogLevel

structure CommandLine where
  listenAddress : SocketAddress
  transport : TransportKind
  configFile : Option String
  logLevel : LogLevel
  operationTimeout : Option Duration
deriving DecidableEq, Repr

namespace CommandLine

inductive Choice where
  | host
  | port
  | transport
  | logLevel
  | configFile
  | operationTimeout
deriving DecidableEq, Repr

namespace Choice

def all : List Choice := [.host, .port, .transport, .logLevel, .configFile, .operationTimeout]

def long : Choice → String
  | .host => "host"
  | .port => "port"
  | .transport => "transport"
  | .logLevel => "log"
  | .configFile => "config"
  | .operationTimeout => "operation-timeout"

def short? : Choice → Option Char
  | .host => some 'H'
  | .port => some 'p'
  | _ => none

def environmentName? : Choice → Option String
  | .host => some "FRAMEWIRE_HOST"
  | .port => some "FRAMEWIRE_PORT"
  | .transport => some "FRAMEWIRE_TRANSPORT"
  | .configFile => some "FRAMEWIRE_CONFIG_FILE"
  | .logLevel | .operationTimeout => none

end Choice

/-- Why a command line is not carried out. Asking for help or for the version is one reason;
`overflow` is a duration whose sum is too long. -/
inductive Refusal where
  | unreadableValue
  | unlistedValue
  | unknownArgument
  | missingArgument
  | repeatedArgument
  | unexpectedValue
  | help
  | version
  | overflow
deriving DecidableEq, Repr

structure Values where
  host : Option IpAddress := none
  port : Option UInt16 := none
  transport : Option TransportKind := none
  logLevel : Option LogLevel := none
  configFile : Option String := none
  operationTimeout : Option Duration := none
deriving DecidableEq, Repr

namespace Values

def has (values : Values) : Choice → Bool
  | .host => values.host.isSome
  | .port => values.port.isSome
  | .transport => values.transport.isSome
  | .logLevel => values.logLevel.isSome
  | .configFile => values.configFile.isSome
  | .operationTimeout => values.operationTimeout.isSome

/-- A port in decimal, which may have a plus sign and zeros in front. -/
def port? (text : String) : Option UInt16 :=
  let digits := match text.toList with
    | '+' :: rest => rest
    | '-' :: rest => if rest.all (· = '0') then rest else []
    | cs => cs
  let number := Digits.number 10 digits
  if !digits.isEmpty && digits.all Char.isDigit && number < 65536 then some (UInt16.ofNat number)
  else none

def orElse {α : Type} (refusal : Refusal) : Option α → Except Refusal α
  | some value => .ok value
  | none => .error refusal

def duration (text : String) : Except Refusal Duration :=
  match Duration.ofText text with
  | .ok span => .ok span
  | .error .malformed => .error .unreadableValue
  | .error .overflow => .error .overflow

def path? (text : String) : Option String := if text.isEmpty then none else some text

def set (values : Values) (choice : Choice) (text : String) : Except Refusal Values := do
  match choice with
  | .host => return { values with host := ← orElse .unreadableValue (IpAddress.ofText? text) }
  | .port => return { values with port := ← orElse .unreadableValue (port? text) }
  | .transport =>
      return { values with transport := ← orElse .unlistedValue (TransportKind.ofName? text) }
  | .logLevel => return { values with logLevel := ← orElse .unlistedValue (LogLevel.ofName? text) }
  | .configFile => return { values with configFile := ← orElse .unlistedValue (path? text) }
  | .operationTimeout => return { values with operationTimeout := ← duration text }

def give (values : Values) (choice : Choice) (text : String) : Except Refusal Values :=
  if values.has choice then .error .repeatedArgument else values.set choice text

end Values

structure Pending where
  choice : Choice
  value : Option String := none
deriving DecidableEq, Repr

/-- `plain` is set by the argument `--`, after which no option can be named. -/
structure Scan where
  values : Values := {}
  pending : Option Pending := none
  plain : Bool := false
deriving DecidableEq, Repr

namespace Scan

def settle (scan : Scan) : Except Refusal Scan :=
  match scan.pending with
  | none => .ok scan
  | some { value := none, .. } => .error .unlistedValue
  | some { choice, value := some text } => do
      return { scan with values := ← scan.values.give choice text, pending := none }

def give (scan : Scan) (choice : Choice) (text : String) : Except Refusal Scan := do
  let scan ← scan.settle
  return { scan with values := ← scan.values.give choice text }

def await (scan : Scan) (choice : Choice) : Except Refusal Scan := do
  let scan ← scan.settle
  return { scan with pending := some { choice } }

def display (scan : Scan) (refusal : Refusal) : Except Refusal Scan := do
  let _ ← scan.settle
  .error refusal

def splitAssignment (cs : List Char) : String × Option String :=
  let name := String.ofList (cs.takeWhile (· ≠ '='))
  match cs.dropWhile (· ≠ '=') with
  | [] => (name, none)
  | _ :: value => (name, some (String.ofList value))

def long (scan : Scan) (cs : List Char) : Except Refusal Scan :=
  let (name, value) := splitAssignment cs
  let display (refusal : Refusal) : Except Refusal Scan :=
    if value.isSome then .error .unexpectedValue else scan.display refusal
  if name = "help" then display .help
  else if name = "version" then display .version
  else
    match Choice.all.find? fun choice => choice.long = name with
    | none => .error .unknownArgument
    | some choice =>
        match value with
        | some text => scan.give choice text
        | none => scan.await choice

def short (scan : Scan) : List Char → Except Refusal Scan
  | [] => .ok scan
  | 'h' :: _ => scan.display .help
  | 'V' :: _ => scan.display .version
  | c :: rest =>
      match Choice.all.find? fun choice => choice.short? = some c with
      | none => .error .unknownArgument
      | some choice =>
          match rest with
          | [] => scan.await choice
          | '=' :: value => scan.give choice (String.ofList value)
          | value => scan.give choice (String.ofList value)

def word (scan : Scan) (text : String) : Except Refusal Scan :=
  match scan.pending with
  | some { choice, value := none } => .ok { scan with pending := some { choice, value := some text } }
  | _ => .error .unknownArgument

def argument (scan : Scan) (text : String) : Except Refusal Scan :=
  if scan.plain then .error .unknownArgument
  else
    match text.toList with
    | ['-', '-'] => .ok { scan with plain := true }
    | '-' :: '-' :: cs => scan.long cs
    | '-' :: c :: cs => scan.short (c :: cs)
    | _ => scan.word text

def arguments : Scan → List String → Except Refusal Scan
  | scan, [] => scan.settle
  | scan, text :: rest => do arguments (← scan.argument text) rest

end Scan

def Values.fromEnvironment (environment : List (String × String)) :
    Values → List Choice → Except Refusal Values
  | values, [] => .ok values
  | values, choice :: rest => do
      let text := choice.environmentName?.bind (environment.lookup ·)
      match text with
      | some text =>
          if values.has choice then fromEnvironment environment values rest
          else fromEnvironment environment (← values.set choice text) rest
      | none => fromEnvironment environment values rest

/-- Every option but the port has a default or may be left out. -/
def ofValues (values : Values) : Except Refusal CommandLine :=
  match values.port with
  | none => .error .missingArgument
  | some port =>
      .ok
        { listenAddress := { ip := values.host.getD IpAddress.loopback, port }
          transport := values.transport.getD .stream
          configFile := values.configFile
          logLevel := values.logLevel.getD .info
          operationTimeout := values.operationTimeout }

def read (arguments : List String) (environment : List (String × String)) :
    Except Refusal CommandLine := do
  let scan ← Scan.arguments {} arguments
  let values ← scan.values.fromEnvironment environment Choice.all
  ofValues values

end CommandLine

end FramedTransport
