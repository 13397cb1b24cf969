import FramedTransport.Duration

/-!
Tuning of the engine.
`check` names the first setting, in a fixed order, whose value cannot work.
-/

namespace FramedTransport

structure Settings where
  bufferCapacity : Nat := 4096
  maxRetainedBuffer : Nat := 65536
  maxIdleBuffers : Nat := 1024
  maxIdleTickets : Nat := 1024
  backlog : Nat := 1024
  maxConnections : Option Nat := none
  maxFrameSize : Nat := 16777216
  maxDatagramSize : Nat := 65507
  concurrentReceives : Nat := 8
  operationTimeout : Duration := Duration.ofSeconds 5
  idleTimeout : Option Duration := none
deriving DecidableEq, Repr

inductive Setting where
  | bufferCapacity
  | maxRetainedBuffer
  | maxIdleBuffers
  | maxIdleTickets
  | backlog
  | maxConnections
  | maxFrameSize
  | maxDatagramSize
  | concurrentReceives
  | operationTimeout
  | idleTimeout
deriving DecidableEq, Repr

namespace Setting

def all : List Setting :=
  [.bufferCapacity, .maxRetainedBuffer, .maxIdleBuffers, .maxIdleTickets, .backlog,
    .maxConnections, .maxFrameSize, .maxDatagramSize, .concurrentReceives, .operationTimeout,
    .idleTimeout]

def key : Setting → String
  | .bufferCapacity => "buffer_capacity"
  | .maxRetainedBuffer => "max_retained_buffer"
  | .maxIdleBuffers => "max_idle_buffers"
  | .maxIdleTickets => "max_idle_tokens"
  | .backlog => "backlog"
  | .maxConnections => "max_connections"
  | .maxFrameSize => "max_frame_size"
  | .maxDatagramSize => "max_datagram_size"
  | .concurrentReceives => "concurrent_receives"
  | .operationTimeout => "operation_timeout"
  | .idleTimeout => "idle_timeout"

def isSpan : Setting → Bool
  | .operationTimeout | .idleTimeout => true
  | _ => false

def ofKey? (key : String) : Option Setting :=
  all.find? fun setting => setting.key = key

end Setting

namespace Settings

inductive Value where
  | count (count : Nat)
  | span (span : Duration)
  | unset
deriving DecidableEq, Repr

def Value.ofCount? : Option Nat → Value
  | some given => .count given
  | none => .unset

def Value.ofSpan? : Option Duration → Value
  | some given => .span given
  | none => .unset

def value (settings : Settings) : Setting → Value
  | .bufferCapacity => .count settings.bufferCapacity
  | .maxRetainedBuffer => .count settings.maxRetainedBuffer
  | .maxIdleBuffers => .count settings.maxIdleBuffers
  | .maxIdleTickets => .count settings.maxIdleTickets
  | .backlog => .count settings.backlog
  | .maxConnections => .ofCount? settings.maxConnections
  | .maxFrameSize => .count settings.maxFrameSize
  | .maxDatagramSize => .count settings.maxDatagramSize
  | .concurrentReceives => .count settings.concurrentReceives
  | .operationTimeout => .span settings.operationTimeout
  | .idleTimeout => .ofSpan? settings.idleTimeout

/-- The settings with one of them changed; a value of the wrong kind changes nothing. -/
def assign (settings : Settings) (setting : Setting) (value : Value) : Settings :=
  match setting, value with
  | .bufferCapacity, .count bufferCapacity => { settings with bufferCapacity }
  | .maxRetainedBuffer, .count maxRetainedBuffer => { settings with maxRetainedBuffer }
  | .maxIdleBuffers, .count maxIdleBuffers => { settings with maxIdleBuffers }
  | .maxIdleTickets, .count maxIdleTickets => { settings with maxIdleTickets }
  | .backlog, .count backlog => { settings with backlog }
  | .maxConnections, .count count => { settings with maxConnections := some count }
  | .maxConnections, .unset => { settings with maxConnections := none }
  | .maxFrameSize, .count maxFrameSize => { settings with maxFrameSize }
  | .maxDatagramSize, .count maxDatagramSize => { settings with maxDatagramSize }
  | .concurrentReceives, .count concurrentReceives => { settings with concurrentReceives }
  | .operationTimeout, .span operationTimeout => { settings with operationTimeout }
  | .idleTimeout, .span span => { settings with idleTimeout := some span }
  | .idleTimeout, .unset => { settings with idleTimeout := none }
  | _, _ => settings

inductive Requirement where
  | positive
  | positiveIfSet
  | aboveFrameHeader
deriving DecidableEq, Repr

def Requirement.text : Requirement → String
  | .positive => "must be greater than zero"
  | .positiveIfSet => "must be greater than zero when set"
  | .aboveFrameHeader => "must exceed the 4 byte frame header"

structure Misfit where
  setting : Setting
  requirement : Requirement
deriving DecidableEq, Repr

def Misfit.message (misfit : Misfit) : String :=
  "invalid `" ++ misfit.setting.key ++ "`: " ++ misfit.requirement.text

def check (settings : Settings) : Except Misfit Unit :=
  if settings.bufferCapacity = 0 then .error ⟨.bufferCapacity, .positive⟩
  else if settings.maxFrameSize = 0 then .error ⟨.maxFrameSize, .positive⟩
  else if settings.concurrentReceives = 0 then .error ⟨.concurrentReceives, .positive⟩
  else if settings.backlog = 0 then .error ⟨.backlog, .positive⟩
  else if settings.maxDatagramSize ≤ 4 then .error ⟨.maxDatagramSize, .aboveFrameHeader⟩
  else if settings.maxConnections = some 0 then .error ⟨.maxConnections, .positiveIfSet⟩
  else if settings.operationTimeout = Duration.zero then .error ⟨.operationTimeout, .positive⟩
  else .ok ()

end Settings

end FramedTransport
