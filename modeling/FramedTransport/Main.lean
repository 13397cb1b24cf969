import FramedTransport.Echo

/-!
The program: it reads its configuration, takes what one peer sends from standard
input, and writes to standard output what the peer is sent back.
-/

namespace FramedTransport

def environment : IO (List (String × String)) := do
  let names := CommandLine.Choice.all.filterMap CommandLine.Choice.environmentName?
  let found ← names.mapM fun name => do
    let value ← IO.getEnv name
    return value.map fun text => (name, text)
  return found.filterMap id

def contents (path : String) : IO (Option ByteArray) := do
  try
    let bytes ← IO.FS.readBinFile path
    return some bytes
  catch _ => return none

def configure (arguments : List String) : IO (Except Configuration.Refusal Configuration) := do
  let environment ← environment
  let file ← match CommandLine.read arguments environment with
    | .ok { configFile := some path, .. } => contents path
    | _ => pure none
  return Configuration.read arguments environment fun _ => file

end FramedTransport

open FramedTransport in
def main (arguments : List String) : IO UInt32 := do
  match ← configure arguments with
  | .error refusal =>
      (← IO.getStderr).putStrLn refusal.message
      return 101
  | .ok configuration =>
      let input ← (← IO.getStdin).readBinToEnd
      let reply := configuration.reply input.toList
      (← IO.getStdout).write (ByteArray.mk reply.toArray)
      return 0
