import Std.Async.Signal
import Roster.Server

/-!
# Running the server

The program: it starts the server in the present directory, writes its log to standard output, and waits
for a signal to stop.
-/

namespace Roster.Main

open Std.Async

/-- The texts between zero bytes. -/
def zeroTerminated (bytes : ByteArray) : List String :=
  ((String.fromUTF8? bytes).map fun s => (s.splitOn "\x00").filter (· != "")).getD []

/-- The variables of the environment. -/
def environment : IO Environment := do
  let entries := zeroTerminated (← IO.FS.readBinFile "/proc/self/environ")
  return entries.filterMap fun e =>
    (Text.splitFirst? '=' e.toList).map fun (name, value) => (String.ofList name, String.ofList value)

/-- Files with those of the paths that can be read. -/
def withFiles (files : Files) (paths : List String) : IO Files :=
  paths.foldlM (fun (files : Files) (path : String) => do
    try return files.write path (← IO.FS.readFile path) catch _ => return files) files

/-- The place that the program runs in, as far as its settings are concerned. -/
def place : IO Place := do
  let p : Place := ⟨← withFiles [] [".env"], ← environment⟩
  let names := p.prepared.environment.fileNames
  return { p with files := ← withFiles p.files (names.map (settingsPath Loader.usualDir)) }

/-- Waits for a signal to stop. -/
def awaitSignal : IO StopSignal := do
  let terminate ← (← Signal.Waiter.mk .sigterm false).wait
  let interrupt ← (← Signal.Waiter.mk .sigint false).wait
  IO.ofExcept (← IO.waitAny
    [terminate.map fun _ => StopSignal.terminate, interrupt.map fun _ => StopSignal.interrupt])

/-- Writes log lines. -/
def printLines (lines : List (List Char)) : IO Unit := do
  let out ← IO.getStdout
  for line in lines do out.putStrLn (String.ofList line)
  out.flush

end Roster.Main

/-- Runs the server. -/
def main : IO UInt32 := do
  let (lines, outcome) := Roster.Server.start (← Roster.Main.place)
  Roster.Main.printLines lines
  match outcome with
  | .ok server => Roster.Main.printLines (server.stop (← Roster.Main.awaitSignal))
  | .error e => IO.eprint (Roster.Server.failureNotice e)
  return (Roster.Server.exitCode outcome).toUInt32
