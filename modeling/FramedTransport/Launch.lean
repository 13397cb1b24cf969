import FramedTransport.CommandLine
import FramedTransport.Error
import FramedTransport.Settings.Reader

/-!
From a command line to a running configuration.
A file of settings is read and checked first; the operation timeout of the
command line then replaces that of the file, and the result is checked again.
A configuration is made once and cannot be asked for before.
-/

namespace FramedTransport

structure Configuration where
  listenAddress : SocketAddress
  transport : TransportKind
  logLevel : LogLevel
  settings : Settings
deriving DecidableEq, Repr

inductive FileFault where
  | notFound
  | invalidText
deriving DecidableEq, Repr

namespace Settings

inductive FileRefusal where
  | unreadable (fault : FileFault)
  | refused (fault : Settings.Fault)
deriving DecidableEq, Repr

def fileText (contents : Option ByteArray) : Except FileFault String :=
  match contents with
  | none => .error .notFound
  | some bytes =>
      match String.fromUTF8? bytes with
      | some text => .ok text
      | none => .error .invalidText

def ofFile (contents : Option ByteArray) : Except FileRefusal Settings :=
  match fileText contents with
  | .error fault => .error (.unreadable fault)
  | .ok text =>
      match ofText text with
      | .ok settings => .ok settings
      | .error fault => .error (.refused fault)

end Settings

namespace Configuration

inductive Refusal where
  | usage (refusal : CommandLine.Refusal)
  | file (refusal : Settings.FileRefusal)
  | misfit (misfit : Settings.Misfit)
  | alreadyMade
  | notMade
deriving DecidableEq, Repr

def Refusal.message : Refusal → String
  | .usage .overflow => Abort.durationOverflow.message
  | .usage _ => "Invalid CLI/ENV"
  | .file (.refused .overflow) => Abort.durationOverflow.message
  | .file _ => "failed to load engine config"
  | .misfit found => "invalid engine config: " ++ found.message
  | .alreadyMade => "Config::init called twice"
  | .notMade => "Config not initialized; call Config::init().await first"

def settingsOf (files : String → Option ByteArray) (line : CommandLine) :
    Except Refusal Settings := do
  let settings ← match line.configFile with
    | none => .ok {}
    | some path =>
        match Settings.ofFile (files path) with
        | .ok settings => .ok settings
        | .error refusal => .error (.file refusal)
  let settings : Settings := match line.operationTimeout with
    | some operationTimeout => { settings with operationTimeout }
    | none => settings
  match settings.check with
  | .ok () => .ok settings
  | .error misfit => .error (.misfit misfit)

def ofCommandLine (files : String → Option ByteArray) (line : CommandLine) :
    Except Refusal Configuration := do
  let settings ← settingsOf files line
  return {
    listenAddress := line.listenAddress
    transport := line.transport
    logLevel := line.logLevel
    settings }

def read (arguments : List String) (environment : List (String × String))
    (files : String → Option ByteArray) : Except Refusal Configuration :=
  match CommandLine.read arguments environment with
  | .error refusal => .error (.usage refusal)
  | .ok line => ofCommandLine files line

def occupy (place : Option Configuration) (made : Except Refusal Configuration) :
    Except Refusal (Option Configuration) :=
  match made, place with
  | .error refusal, _ => .error refusal
  | .ok _, some _ => .error .alreadyMade
  | .ok configuration, none => .ok (some configuration)

def current (place : Option Configuration) : Except Refusal Configuration :=
  match place with
  | some configuration => .ok configuration
  | none => .error .notMade

end Configuration

end FramedTransport
