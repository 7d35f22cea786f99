import RowStream.CommandLine
import RowStream.Http.Wire
import Std.Async.DNS
import Std.Async.TCP

/-!
# The command line

Reads the arguments, the environment and the port file, sends the one request that the call asks
for, and prints what the library says.  Everything is decided in `RowStream.CommandLine`; this
module only moves bytes.
-/

set_option autoImplicit false

namespace RowStream.Program

open Std.Async
open Std.Net (SocketAddress IPAddr)
open Http (Network Reply Request)

def environment : IO Environment := do
  let values ← Variable.all.filterMapM fun name => do
    return (← IO.getEnv name.name).map fun value => (name, value)
  let path := (values.lookup .portFile).getD defaultPortFile
  let contents : Option ByteArray ←
    try pure (some (← IO.FS.readBinFile path)) catch _ => pure none
  return {
    value? := fun name => values.lookup name
    file? := fun asked => if asked = path then contents.map (·.toList) else none }

def addresses (url : Url) : IO (List SocketAddress) := do
  let port := (url.port.or (Url.defaultPort? url.scheme)).getD fallbackPort
  let known (address : IPAddr) : SocketAddress :=
    match address with
    | .v4 address => .v4 ⟨address, port⟩
    | .v6 address => .v6 ⟨address, port⟩
  match url.host with
  | some (.domain name) => return (← (DNS.getAddrInfo name "").block).toList.map known
  | some (.ipv4 address) =>
      let byte (shift : Nat) : UInt8 := UInt8.ofNat (address / Nat.pow 2 shift)
      return [known (.v4 (.ofParts (byte 24) (byte 16) (byte 8) (byte 0)))]
  | some (.ipv6 groups) =>
      return [known (.v6 ⟨Vector.ofFn fun place => UInt16.ofNat (groups.getD place 0)⟩)]
  | _ => return []

/-- Everything that the server sends before it closes the connection. -/
partial def receive (socket : TCP.Socket.Client) (received : ByteArray) : Async ByteArray := do
  match ← socket.recv? 65536 with
  | some bytes => receive socket (received ++ bytes)
  | none => return received

/-- Sends a request to the first address that can be reached. -/
def exchange (request : Request) : List SocketAddress → IO (Option Reply)
  | [] => throw (IO.userError "no address for this host")
  | address :: others => do
      let socket ← TCP.Socket.Client.mk
      let connected ← try (socket.connect address).block; pure (Except.ok ())
        catch error => pure (Except.error error)
      match connected with
      | .error error => if others.isEmpty then throw error else exchange request others
      | .ok () =>
          let received ← try
              (socket.send ⟨request.toWire.toArray⟩).block
              (receive socket .empty).block
            catch _ => pure .empty
          return Reply.ofWire? received.toList

def network (request : Request) : IO Network := do
  if request.url.scheme = "http" then
    try
      let reply ← exchange request (← addresses request.url)
      return .connected fun _ => reply
    catch error => return .unreachable (toString error)
  else return .unreachable "invalid URL, scheme is not http"

def run (words : List String) : IO UInt32 := do
  let environment ← environment
  let request? := (Invocation.plan words environment).toOption.bind Invocation.request?
  let network ← match request? with
    | some request => network request
    | none => pure (.unreachable "nothing to send")
  match transcript? words environment network .unlimited with
  | some transcript =>
      IO.print transcript.output
      IO.eprint transcript.diagnostics
      return UInt32.ofNat transcript.exitCode
  | none =>
      IO.eprintln ("Error: No terminal is offered, ask for --check or --headless\n" ++ usage)
      return 1

end RowStream.Program

def main (words : List String) : IO UInt32 := RowStream.Program.run words
