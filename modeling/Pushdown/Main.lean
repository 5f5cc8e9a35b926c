import Pushdown.Command.Run
import Std.Async.DNS
import Std.Async.TCP
import Std.Async.Timer

/-!
# The program

The outer layer of the command line: files, variables, the clock and the network are the real
ones. A request goes out on a connection of its own, which ends with the answer. Encrypted
connections are not to be had here; an address that asks for one is out of reach.
-/

namespace Pushdown.Network

open Std.Async

/-- How many bytes are taken in at once. -/
def pieceSize : UInt64 := 65536

/-- All that comes in on a connection until it ends, in at most so many pieces. -/
def receive (client : TCP.Socket.Client) : Nat → ByteArray → Async ByteArray
  | 0, received => return received
  | pieces + 1, received => do
    match ← client.recv? pieceSize with
    | some bytes => receive client pieces (received ++ bytes)
    | none => return received

/-- A place to connect to. -/
def place (address : Std.Net.IPAddr) (port : Nat) : Std.Net.SocketAddress :=
  match address with
  | .v4 addr => .v4 ⟨addr, port.toUInt16⟩
  | .v6 addr => .v6 ⟨addr, port.toUInt16⟩

/-- A connection to the first of some places where somebody listens. -/
def connectTo : List Std.Net.SocketAddress → Async (Option TCP.Socket.Client)
  | [] => return none
  | place :: places => do
    let connected ←
      try
        let client ← TCP.Socket.Client.mk
        client.connect place
        pure (some client)
      catch _ => pure none
    match connected with
    | some client => return some client
    | none => connectTo places

/-- The places a host goes by. -/
def placesOf (address : Http.Address) : Async (List Std.Net.SocketAddress) := do
  try
    let found ← DNS.getAddrInfo address.host.text ""
    return found.toList.map (place · address.port)
  catch _ => return []

/-- Sends a request and reads what comes back. -/
def talk (client : TCP.Socket.Client) (request : Http.Request) : Async Http.Exchange := do
  try
    client.send ⟨request.encode.toArray⟩
    match Http.Response.ofBytes? (← receive client Command.endless .empty).toList with
    | some response => return .answered response
    | none => return .broken
  catch _ => return .broken

/-- Carries a request out. -/
def exchange (request : Http.Request) : Async Http.Exchange := do
  if request.address.secure then return .unreachable
  match ← connectTo (← placesOf request.address) with
  | some client => talk client request
  | none => return .unreachable

/-- Waits for a budget to be used up. -/
def exhaust (budget : Nat) : Async Http.Exchange := do
  let pause ← Sleep.mk (.ofNat budget)
  pause.wait
  return .tooSlow

/-- Carries a request out within a budget. -/
def transport : Http.Transport IO := fun request budget =>
  (Async.race (exchange request) (exhaust budget)).block

end Pushdown.Network

open Pushdown in
/-- The program. -/
def main (words : List String) : IO UInt32 := do
  let names := Config.settings.map (·.envName)
    ++ [Command.urlVariable.name, Command.passwordVariable.name]
  let environment ← names.filterMapM fun name => do
    return (← IO.getEnv name).map fun value => (name, value)
  let output ← IO.getStdout
  let surroundings : Surroundings IO :=
    { environment := fun name => environment.lookup name
      read := fun path => do
        try
          return some (← IO.FS.readBinFile path).toList
        catch _ => return none
      transport := Network.transport
      now := IO.monoMsNow
      print := fun text => do
        output.putStr text
        output.flush }
  let ending ← Command.carryOut surroundings words
  match ending with
  | .failed message => IO.eprintln ("Error: " ++ message)
  | .misused => IO.eprint Command.overview
  | .done => pure ()
  return ending.exitCode.toUInt32
