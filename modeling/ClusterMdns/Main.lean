import ClusterMdns.Program
import Std.Async.Signal
import Std.Async.TCP
import Std.Async.UDP

/-!
The command line: what surrounds the program is looked up, and its course is carried out. Files are
read only where the course can depend on them; sockets are opened before the course is known and
stay open while the program runs.
-/

namespace ClusterMdns.CommandLine

/-- The variable that bytes set: its name up to an equals sign, and its value. -/
def assignment? (bytes : List UInt8) : Option (String × String) := do
  let name := bytes.takeWhile (· != 61)
  let value := bytes.drop (name.length + 1)
  return (← String.fromUTF8? ⟨name.toArray⟩, ← String.fromUTF8? ⟨value.toArray⟩)

def entries (bytes : List UInt8) : List (List UInt8) :=
  bytes.foldr (fun byte entries =>
    match byte == 0, entries with
    | true, _ => [] :: entries
    | false, [] => [[byte]]
    | false, entry :: rest => (byte :: entry) :: rest) []

def environment : IO (List (String × String)) := do
  try
    let bytes ← IO.FS.readBinFile "/proc/self/environ"
    return (entries bytes.toList).filterMap assignment?
  catch _ => return []

def text? (path : String) : IO (Option String) := do
  try return some (← IO.FS.readFile path)
  catch _ => return none

def texts (paths : List String) : IO (List (String × String)) :=
  paths.filterMapM fun path => do return (← text? path).map fun text => (path, text)

/-- An address for the network. -/
def netAddress (address : SocketAddress) : Std.Net.SocketAddress :=
  match address.ip with
  | .v4 ip => .v4 ⟨.ofParts ip.first ip.second ip.third ip.fourth, address.port⟩
  | .v6 ip =>
    let group := fun position => UInt16.ofNat (ip.groups[position]?.getD 0)
    .v6 ⟨.ofParts (group 0) (group 1) (group 2) (group 3) (group 4) (group 5) (group 6) (group 7),
      address.port⟩

structure Sockets where
  datagrams : Std.Async.UDP.Socket
  connections : Std.Async.TCP.Socket.Server

/-- Opens the sockets at an address, if that is possible. -/
def Sockets.open? (address : SocketAddress) : IO (Option Sockets) := do
  try
    let datagrams ← Std.Async.UDP.Socket.mk
    datagrams.bind (netAddress address)
    let connections ← Std.Async.TCP.Socket.Server.mk
    connections.bind (netAddress address)
    return some ⟨datagrams, connections⟩
  catch _ => return none

def waitForSignal : IO Unit := do
  let interrupt ← Std.Async.Signal.Waiter.mk .sigint false
  let terminate ← Std.Async.Signal.Waiter.mk .sigterm false
  discard <| IO.waitAny [← interrupt.wait, ← terminate.wait]
  interrupt.stop
  terminate.stop

def writeLine (line : Log.Line) : IO Unit := do
  IO.println (line.level.name ++ " " ++ line.target ++ ": " ++ line.text)
  (← IO.getStdout).flush

def conclude : Program.Ending → IO Unit
  | .shown lines => lines.forM IO.println
  | .misused error => IO.eprintln ("error: " ++ Arguments.rejection error)
  | .unreadable => IO.eprintln "Error: the configuration cannot be read"
  | .failed failure => IO.eprintln ("Error: " ++ failure.label)
  | .waiting closing => do
    waitForSignal
    closing.forM writeLine

/-- What the course of a run can depend on, and the sockets that it can need. -/
def gather (given : List String) : IO (Surroundings × Option Sockets) := do
  let bare : Surroundings := ⟨← environment, fun _ => none, fun _ => none, fun _ => false⟩
  match Arguments.read given with
  | .error _ => return (bare, none)
  | .ok arguments =>
    let files ← texts (SettingsFile.paths arguments.config)
    let surroundings := { bare with file? := fun path => files.lookup path }
    match Program.settings? surroundings arguments with
    | none => return (surroundings, none)
    | some settings =>
      let access ← texts settings.cluster.accessFile.toList
      let sockets ← match settings.responder with
        | some responder => Sockets.open? responder.listen
        | none => pure none
      return ({ surroundings with
        server? := fun path => (access.lookup path).bind ClusterSettings.serverIn?
        opens := fun _ => sockets.isSome }, sockets)

end ClusterMdns.CommandLine

open ClusterMdns in
/-- Runs the program with arguments. -/
def main (arguments : List String) : IO UInt32 := do
  let (surroundings, sockets) ← CommandLine.gather arguments
  let course := Program.course surroundings arguments
  course.lines.forM CommandLine.writeLine
  CommandLine.conclude course.ending
  sockets.forM fun sockets => discard sockets.datagrams.getSockName
  return course.ending.exitCode.toUInt32
