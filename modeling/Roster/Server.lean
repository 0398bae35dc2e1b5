import Roster.Log.Filter
import Roster.Service.Stack
import Roster.Settings.Loader

/-!
# The server

The program as a whole: it loads its settings, sets up its log, puts the service together, and is then
ready until it is told to stop.

* `Server.start` starts it in a place and gives the log lines up to there. What goes wrong before the
  log is set up leaves no lines.
* `Server.stop` gives the lines after a signal.
-/

namespace Roster

open Roster.Log Roster.Service

/-- What tells the server to stop. -/
inductive StopSignal where
  | interrupt
  | terminate
  deriving DecidableEq, Repr

/-- A server that is ready. -/
structure Server where
  settings : Settings
  filter : Filter
  cache : Option CachePlan
  deriving DecidableEq, Repr

namespace Server

/-- The part of the program that the events of the server are about. -/
def target : String := "strata_server"

/-- An event of the server. -/
def event (message : String) : Event := .info target message

/-- The name of a format of log lines in the log. -/
def formatName : LogFormat → String
  | .pretty => "Pretty"
  | .json => "Json"

/-- The event that the log has been set up. -/
def logEvent (s : LogSettings) : Event :=
  ⟨.info, "strata_core::telemetry", "Tracing initialized",
    [⟨"log_level", s.level, false⟩, ⟨"log_format", formatName s.format, false⟩]⟩

/-- The events from when the log has been set up until the service is put together. -/
def openingEvents (s : Settings) : List Event :=
  [logEvent s.observability, event "Starting Strata Server...",
    event ("Version: " ++ s.app.version), event ("Environment: " ++ s.app.environment)]

/-- The event that the server has failed. -/
def failureEvent (e : Failure) : Event :=
  ⟨.error, target, "Application error: " ++ e.message, [⟨"code", e.code, true⟩]⟩

/-- The events when the server is told to stop. -/
def closingEvents : StopSignal → List Event
  | .interrupt => [event "Received Ctrl+C, shutting down...", event "Server shutdown complete"]
  | .terminate =>
    [event "Received terminate signal, shutting down...", event "Server shutdown complete"]

/-- The lines of those events that pass a filter. -/
def lines (s : LogSettings) (f : Filter) (events : List Event) : List (List Char) :=
  (events.filter f.passes).map s.line

/-- The cache of the service that settings ask for. Users can only be kept in memory. -/
def assemble (s : Settings) : Except Failure (Option CachePlan) :=
  if s.storage.inMemory then CachePlan.ofSettings s.cache s.redis
  else .error (.configuration "storage.in_memory is false but no other storage backend is available")

/-- Starts the server with settings, given the filter that is set in place of the level. -/
def startWith (s : Settings) (filter : Option String) : List (List Char) × Except Failure Server :=
  match s.observability.filter filter with
  | .error e => ([], .error e)
  | .ok f =>
    let told := lines s.observability f
    match assemble s with
    | .error e => (told (openingEvents s ++ [failureEvent e]), .error e)
    | .ok plan =>
      (told (openingEvents s ++ [CachePlan.event plan, event "Strata ready"]), .ok ⟨s, f, plan⟩)

/-- Starts the server in a place. -/
def start (p : Place) : List (List Char) × Except Failure Server :=
  match Settings.load Loader.usualDir p with
  | (.error e, _) => ([], .error e)
  | (.ok s, p) => startWith s (p.environment.get? logVariable)

/-- The lines when the server is told to stop. -/
def stop (server : Server) (signal : StopSignal) : List (List Char) :=
  lines server.settings.observability server.filter (closingEvents signal)

/-- What is said of a failure outside the log. -/
def failureNotice (e : Failure) : String := "strata-server: " ++ e.message ++ "\n"

/-- The exit code of a run that has started like this. -/
def exitCode {α : Type} : Except Failure α → Nat
  | .ok _ => 0
  | .error _ => 1

end Server

end Roster
