import FramedTransport.Frame.Feed
import FramedTransport.Frame.Outgoing
import FramedTransport.Pool.Buffers

/-!
Frames on a desk: one reader and one writer over a pool of buffers.
Every buffer that leaves the pool belongs to the reader, to the writer, to the
latest result or to the frames that were taken out, and goes back from there.
-/

namespace FramedTransport

structure FrameDesk where
  buffers : BufferPool
  reader : Option Incoming := none
  writer : Option Outgoing := none
  result : Option Delivery := none
  kept : List Buffer := []

namespace FrameDesk

inductive ReaderAction where
  | start (room maxPayload : Nat)
  | drop
  | window
  | write (bytes : Bytes)
  | advance (count : Nat)
  | feed (split : Option Nat) (bytes : Bytes)
  | frame
  | rearm
  | close
  | release
deriving DecidableEq, Repr

inductive WriterAction where
  | encode (stale payload : Bytes) (room maxPayload : Nat)
  | advance (count : Nat)
  | pending
  | release (remote : SocketAddress)
  | takeBytes
  | shrink
  | drop
deriving DecidableEq, Repr

inductive Reply where
  | done
  | missing
  | refused (error : TransportError)
  | capacity (capacity : Nat)
  | count (count : Nat)
  | bytes (bytes : Bytes)
  | phase (phase : Incoming.Phase)
  | fed (fed : Incoming.Fed)
  | frame (frame : Option (FrameHeader × Bytes))
  | released (header : FrameHeader) (buffer : Buffer)
  | progress (progress : Progress)
  | delivered (delivery : Delivery)
deriving DecidableEq, Repr

def giveBack (buffer : Buffer) (desk : FrameDesk) : FrameDesk :=
  { desk with buffers := desk.buffers.giveBack buffer }

def dropReader (desk : FrameDesk) : FrameDesk :=
  match desk.reader with
  | some reader => { desk with reader := none }.giveBack reader.close.buffer
  | none => desk

def dropKept (desk : FrameDesk) : FrameDesk :=
  { desk with kept := [], buffers := desk.buffers.giveBackAll desk.kept }

def dropWriter (desk : FrameDesk) : FrameDesk :=
  match desk.writer with
  | some writer => { desk with writer := none }.giveBack writer.buffer
  | none => desk

def dropResult (desk : FrameDesk) : FrameDesk :=
  match desk.result with
  | some result => { desk with result := none }.giveBack result.buffer
  | none => desk

def dropAll (desk : FrameDesk) : FrameDesk := desk.dropReader.dropKept.dropWriter.dropResult

def withReader (desk : FrameDesk) (use : Incoming → Reply × FrameDesk) : Reply × FrameDesk :=
  match desk.reader with
  | some reader => use reader
  | none => (.missing, desk)

def withWriter (desk : FrameDesk) (use : Outgoing → Reply × FrameDesk) : Reply × FrameDesk :=
  match desk.writer with
  | some writer => use writer
  | none => (.missing, desk)

def read (action : ReaderAction) (desk : FrameDesk) : Reply × FrameDesk :=
  let keep (reply : Reply) (reader : Incoming) : Reply × FrameDesk :=
    (reply, { desk with reader := some reader })
  let judged (reply : Reply) : Incoming × Except TransportError Unit → Reply × FrameDesk
    | (reader, .ok ()) => keep reply reader
    | (reader, .error error) => keep (.refused error) reader
  match action with
  | .start room maxPayload =>
      let desk := desk.dropReader
      let (buffer, buffers) := desk.buffers.rent room
      (.capacity buffer.capacity, { desk with buffers, reader := some (Incoming.start buffer maxPayload) })
  | .drop => (.done, desk.dropReader.dropKept)
  | .window => desk.withReader fun reader => keep (.bytes reader.window) reader.expose
  | .write bytes =>
      desk.withReader fun reader =>
        keep (.count (min bytes.length reader.windowLength)) (reader.write bytes)
  | .advance count =>
      desk.withReader fun reader =>
        let moved := reader.advance count
        judged (.phase moved.1.phase) moved
  | .feed split bytes =>
      desk.withReader fun reader =>
        let fed := reader.feed split bytes
        keep (.fed fed) fed.reader
  | .frame => desk.withReader fun reader => (.frame reader.frame?, desk)
  | .rearm => desk.withReader fun reader => judged .done reader.rearm
  | .close => desk.withReader fun reader => keep .done reader.close
  | .release =>
      desk.withReader fun reader =>
        match reader.release with
        | .error error => (.refused error, desk.dropReader)
        | .ok (header, buffer) =>
            (.released header buffer, { desk with reader := none, kept := desk.kept ++ [buffer] })

def write (action : WriterAction) (desk : FrameDesk) : Reply × FrameDesk :=
  match action with
  | .encode stale payload room maxPayload =>
      let desk := desk.dropWriter
      let (buffer, buffers) := desk.buffers.rent room
      let buffer := buffer.append stale
      let desk := { desk with buffers }
      match Outgoing.encode buffer payload maxPayload with
      | .ok writer => (.done, { desk with writer := some writer })
      | .error error => (.refused error, desk.giveBack buffer)
  | .advance count =>
      desk.withWriter fun writer =>
        match writer.advance count with
        | .ok writer => (.progress writer.progress, { desk with writer := some writer })
        | .error error => (.refused error, desk)
  | .pending => desk.withWriter fun writer => (.bytes writer.pending, desk)
  | .release remote =>
      desk.withWriter fun writer =>
        match writer.release remote with
        | .ok delivery =>
            (.delivered delivery,
              { { desk with writer := none }.dropResult with result := some delivery })
        | .error error => (.refused error, desk.dropWriter)
  | .takeBytes =>
      match desk.result with
      | some delivery => (.bytes delivery.payload, desk.dropResult)
      | none => (.missing, desk)
  | .shrink =>
      let (count, buffers) := desk.buffers.shrink
      (.count count, { desk with buffers })
  | .drop => (.done, desk.dropWriter.dropResult)

end FrameDesk

end FramedTransport
