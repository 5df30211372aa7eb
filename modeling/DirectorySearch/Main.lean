import DirectorySearch.CommandLine.Run
import DirectorySearch.Http.Wire
import Std.Async.DNS
import Std.Async.TCP
import Std.Time

/-!
# The program

The outer layer: it looks up variables, reads the configuration, carries requests over the network and
prints.  What is read, asked and printed is decided by `CommandLine.run`.

* `readConfiguration`, `lookUp`, `deliver` — what the program finds.
* `perform` — runs the program again with every reply that comes in, until it asks for nothing more.
* `main` — the program.

Requests go over plain connections only; a directory that wants an encrypted one cannot be reached.
-/

namespace DirectorySearch.Program

open Std.Async Std.Net

/-! ## Files and variables -/

/-- What reading a file gives. -/
def readConfiguration (path : String) : IO (Except FileError (List UInt8)) := do
  try
    return .ok (← IO.FS.readBinFile path).toList
  catch
    | .noFileOrDirectory .. => return .error .notFound
    | .inappropriateType .. => return .error .isDirectory
    | e => return .error (.other (toString e))

/-- The variables of these names that have a value. -/
def lookUp (names : List String) : IO Environment := do
  let found ← names.mapM fun name => do return (← IO.getEnv name).map fun value => (name, value)
  return found.filterMap id

/-- The names that a configuration refers to. -/
def namesIn (content : Except FileError (List UInt8)) : List String :=
  match content with
  | .ok bytes => referencedNames (decodeLossy bytes)
  | .error _ => []

/-! ## The network -/

/-- The addresses of a host. -/
def addresses : Host → Async (List IPAddr)
  | .name text => return (← DNS.getAddrInfo text "").toList
  | .addressV4 bits =>
    let part (i : Nat) : UInt8 := (bits / Nat.pow 256 i).toUInt8
    return [.v4 (.ofParts (part 3) (part 2) (part 1) (part 0))]
  | .addressV6 pieces =>
    let part (i : Nat) : UInt16 := (pieces.getD i 0).toUInt16
    return [.v6 (.ofParts (part 0) (part 1) (part 2) (part 3) (part 4) (part 5) (part 6) (part 7))]

/-- An address with a port. -/
def socketAddress (port : UInt16) : IPAddr → SocketAddress
  | .v4 addr => .v4 { addr, port }
  | .v6 addr => .v6 { addr, port }

/-- All bytes that come in until the other side closes the connection. -/
partial def receiveAll (socket : TCP.Socket.Client) (received : ByteArray) : Async ByteArray := do
  match ← socket.recv? 65536 with
  | none => return received
  | some bytes => receiveAll socket (received ++ bytes)

/-- The bytes that come back from an address. -/
def exchange (request : Request) (address : SocketAddress) : Async Delivery := do
  let socket ← TCP.Socket.Client.mk
  socket.connect address
  socket.send ⟨request.bytes.toArray⟩
  return .ofBytes (← receiveAll socket .empty).toList

/-- What comes back from the first address of a host. -/
def ask (request : Request) (host : Host) (port : UInt16) : Async Delivery := do
  match ← addresses host with
  | [] => return .unreachable
  | address :: _ => exchange request (socketAddress port address)

/-- What comes back for a request. -/
def deliver (request : Request) : IO Delivery := do
  match request.url.scheme, request.url.host with
  | "http", some host =>
    try
      (ask request host (request.url.port.getD 80).toUInt16).block
    catch _ =>
      return .unreachable
  | _, _ => return .unreachable

/-! ## Running -/

/-- Runs the program, with a reply more each time, until it makes no further request. -/
partial def perform (around : CommandLine.Surroundings) (args : List String) :
    IO CommandLine.Report := do
  let report := CommandLine.run around args
  match report.requests[around.deliveries.length]? with
  | none => return report
  | some request =>
    let delivery ← deliver request
    perform { around with deliveries := around.deliveries ++ [delivery] } args

/-- Runs the program and prints what it reports; gives the code to end with. -/
def run (args : List String) : IO UInt32 := do
  let content ← readConfiguration (Invocation.parse args).configPath
  let environment ← lookUp ("RUST_LOG" :: namesIn content)
  let report ← perform { environment, fileContent := fun _ => content } args
  let time := toString (← Std.Time.PlainDateTime.now)
  for line in report.logLines time do
    IO.eprintln line
  for line in report.lines do
    IO.println line
  if let some message := report.error then
    IO.eprintln message
  return report.exitCode.toUInt32

end DirectorySearch.Program

/-- The program. -/
def main (args : List String) : IO UInt32 := DirectorySearch.Program.run args
