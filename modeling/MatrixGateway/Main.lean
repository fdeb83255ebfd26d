import MatrixGateway.Program
import MatrixGateway.RequestId
import MatrixGateway.Session

/-!
# Command line

Starts the gateway from its flags and the environment, and serves the one
connection on standard input and output; its end shuts the gateway down as
a signal does. There is no network here: every address can be bound, and no
server behind the gateway can be reached.
-/

set_option autoImplicit false

namespace MatrixGateway.CommandLine

def variableNames : List String :=
  Program.levelVariable :: Transport.Override.all.map Transport.Override.name

def environment : IO Transport.Environment := do
  let known ← variableNames.mapM fun name => return (name, ← IO.getEnv name)
  return fun name => (known.find? (·.1 = name)).bind (·.2)

def files (arguments : List String) : IO Settings.Files := do
  let path := match Flags.parse arguments with
    | .ok flags => flags.config
    | .error _ => none
  let content ← match path with
    | some path =>
      try pure (some (← IO.FS.readBinFile path).toList) catch _ => pure none
    | none => pure none
  return fun asked =>
    match path, content with
    | some path, some bytes => if asked = path then .ok bytes else .error .notFound
    | _, _ => .error .notFound

/-- Binds whatever is asked for. -/
def machine : Machine where
  lookup host := match Ipv4.parse? host.toList with
    | some a => [.v4 a]
    | none => if host = "localhost" then [.v4 (Ipv4.ofOctets 127 0 0 1)] else []
  owns _ := true
  reservedBelow := 0
  occupied := []
  freePort := 8008

def peers : Peers where
  transport _ := (0, .error (.unreachable "there is no network"))
  origin := none

def fresh : IO Bytes := return RequestId.fresh (← IO.rand 0 (Nat.pow 2 122 - 1))

partial def converse (router : Router) (s : Session) (m : Metrics) (output : IO.FS.Stream) :
    IO Unit := do
  let (s, turn, m) := s.turn router peers (← fresh) [] m
  output.write (ByteArray.mk turn.bytes.toArray)
  output.flush
  if s.isOpen then converse router s m output

partial def readAll (input : IO.FS.Stream) (taken : ByteArray) : IO ByteArray := do
  let piece ← input.read 65536
  if piece.isEmpty then return taken else readAll input (taken ++ piece)

def run (arguments : List String) : IO UInt32 := do
  let env ← environment
  let output ← IO.getStdout
  let tell (lines : List LogLine) : IO Unit :=
    (Program.shown env lines).forM fun l => output.putStrLn l.write
  let (told, result) := Program.start arguments (← files arguments) env machine
  tell told
  match result with
  | .error ending =>
    if ending.status = 0 then output.putStr Flags.helpText
    else (← IO.getStderr).putStrLn ending.complaint
    return ending.status.toUInt32
  | .ok (g, _) =>
    let sent ← readAll (← IO.getStdin) ByteArray.empty
    let router := Router.ofSettings g.settings g.homeserver g.media
    converse router { client := none, unread := sent.toList } {} output
    tell Program.stopLines
    return 0

end MatrixGateway.CommandLine

def main (arguments : List String) : IO UInt32 := MatrixGateway.CommandLine.run arguments
