import GraphBrowser.Client.Http
import GraphBrowser.CommandLine
import Std.Async.DNS
import Std.Async.TCP
import Std.Async.Timer

namespace GraphBrowser.Program

open Std.Async Std.Net

def addresses (host : Url.Host) (port : UInt16) : Async (List SocketAddress) := do
  match host with
  | .ipv4 a =>
    let octet (i : Nat) : UInt8 := .ofNat (Url.Ipv4.octet a i)
    return [.v4 ⟨.ofParts (octet 3) (octet 2) (octet 1) (octet 0), port⟩]
  | .ipv6 pieces =>
    let piece (i : Nat) : UInt16 := .ofNat (pieces[i]?.getD 0)
    return [.v6 ⟨.ofParts (piece 0) (piece 1) (piece 2) (piece 3) (piece 4) (piece 5) (piece 6)
      (piece 7), port⟩]
  | .domain name =>
    return (← DNS.getAddrInfo name (toString port)).toList.map fun
      | .v4 a => .v4 ⟨a, port⟩
      | .v6 a => .v6 ⟨a, port⟩

partial def receive (socket : TCP.Socket.Client) (bytes : ByteArray) : Async ByteArray := do
  match ← socket.recv? 65536 with
  | none => return bytes
  | some more => receive socket (bytes ++ more)

def converse (r : Request) (address : SocketAddress) : Async Reply := do
  let socket ← (TCP.Socket.Client.mk : IO TCP.Socket.Client)
  socket.connect address
  socket.send (Http.requestText r).toUTF8
  return Http.reply (← receive socket .empty).toList

def attempt (r : Request) : List SocketAddress → Async Reply
  | [] => return .fault .noConnection
  | address :: others => do
    try
      converse r address
    catch _ =>
      attempt r others

/-- Send a request to its host. Secure connections are not made. -/
def exchange (r : Request) : Async Reply := do
  if r.url.secure then
    return .fault .noConnection
  else
    try
      attempt r (← addresses r.url.host (.ofNat (r.url.port.getD 80)))
    catch _ =>
      return .fault .noConnection

instance : Inhabited Reply := ⟨.fault .noConnection⟩

def send (r : Request) : IO Reply :=
  (Async.race (exchange r) do
    sleep (.ofNat r.timeout)
    return .fault .timedOut).block

/-- Whether an event is shown at a log level; an unknown level is `info`. -/
def isShown (level : String) (e : Event) : Bool :=
  match e.level with
  | .debug => level == "trace" || level == "debug"
  | .warn => level != "error"

def levelName : Level → String
  | .debug => "DEBUG"
  | .warn => "WARN"

def logLevel (args : List String) : String :=
  match CommandLine.read args with
  | .ok i => i.options.logLevel.getD "info"
  | .error _ => "info"

def usage : String :=
  "Usage: depview [--api-url URL] [--timeout-secs N] [--log-level LEVEL] COMMAND\n\n" ++
  "Commands:\n" ++
  "  info\n" ++
  "  node NAME\n" ++
  "  edge FROM TO [--depth N]\n" ++
  "  nodes [-q QUERY] [--page N] [--size N]\n"

end GraphBrowser.Program

open GraphBrowser in
def main (args : List String) : IO UInt32 := do
  let out ← CommandLine.run .wrapping Program.send (← IO.getEnv "DEPVIEW_API_URL") args
  for e in out.events do
    if Program.isShown (Program.logLevel args) e then
      IO.eprintln (Program.levelName e.level ++ " " ++ e.text)
  match CommandLine.read args with
  | .error .help => IO.print Program.usage
  | .error .usage => IO.eprint Program.usage
  | .ok _ => IO.print out.output
  match out.errorText with
  | some text => IO.eprintln ("Error: " ++ text)
  | none => pure ()
  return .ofNat out.exitCode
