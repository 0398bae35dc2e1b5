import Roster.Cache.Remote
import Roster.Error
import Roster.Redis.Address
import Roster.Settings.Basic

/-!
# Redis servers as remote tiers

A client holds the address of a server and how many connections there may be; it connects when it is
first used. All that is known of the server is how it answers commands: a `Server` says that.

* `Client.ofSettings` makes a client.
* `Client.tier` is the remote tier that a client is in front of a server.
-/

namespace Roster.Redis

open Roster.Cache Roster.Text Roster.Time

/-- What a client asks of a server. -/
inductive Command where
  | get (key : String)
  /-- Sets a value that is kept for so many seconds. -/
  | setFor (key : String) (value : ByteArray) (seconds : Nat)
  | delete (key : String)

/-- What a server answers. -/
abbrev Command.Reply : Command → Type
  | .get _ => Option ByteArray
  | .setFor .. => Unit
  | .delete _ => Unit

/-- Why there is no answer. -/
inductive Fault where
  /-- There is no connection. -/
  | noConnection (reason : String)
  /-- The command has failed. -/
  | refused (reason : String)
  deriving DecidableEq, Repr

/-- A command and its answer. -/
structure Exchange (ρ α : Type) where
  /-- How long it takes, unless it never ends. -/
  delay : Option Duration
  /-- The state once the command has been sent. -/
  started : ρ
  /-- The answer. -/
  reply : Except Fault α
  /-- The state once the answer has come. -/
  ended : ρ

/-- A server with states of type `ρ`, as seen through a connection. -/
abbrev Server (ρ : Type) := (c : Command) → ρ → Exchange ρ c.Reply

/-- A client of a server. -/
structure Client where
  address : Address
  /-- The greatest number of connections. -/
  poolSize : Nat
  deriving DecidableEq, Repr

namespace Client

/-- The client for the settings. -/
def ofSettings (s : RedisSettings) : Except Failure Client :=
  match Address.ofText s.url with
  | .ok address => .ok ⟨address, s.poolSize⟩
  | .error e => .error (.cache ("Failed to create Redis pool: Config: Redis: " ++ e.message))

/-- The trouble of a command without an answer; `doing` names the command. -/
def trouble (doing key : String) : Fault → Trouble
  | .noConnection reason => .unavailable
      ("Failed to get Redis connection: Error occurred while creating a new object: " ++ reason)
  | .refused reason => .unavailable ("Failed to " ++ doing ++ " key '" ++ key ++ "': " ++ reason)

/-- For how many seconds an entry is kept: the whole seconds of a time, but at least one. -/
def wholeSeconds (ttl : Duration) : Nat := max ttl.toSeconds 1

/-- A command as a call on a tier. Without any connections it never ends. -/
def attempt {ρ α β : Type} (c : Client) (doing key : String) (answer : α → Except Trouble β) (s : ρ)
    (x : Exchange ρ α) : Attempt ρ β where
  delay := if c.poolSize = 0 then none else x.delay
  started := if c.poolSize = 0 then s else x.started
  answer := match x.reply with
    | .ok a => answer a
    | .error e => .error (trouble doing key e)
  ended := x.ended

/-- The server as a remote tier. -/
def tier {ρ : Type} (c : Client) (server : Server ρ) : Slow ρ where
  get key s :=
    c.attempt "get" key (fun | some value => .ok value | none => .error .miss) s (server (.get key) s)
  set key value ttl s := c.attempt "set" key .ok s (server (.setFor key value (wholeSeconds ttl)) s)
  delete key s := c.attempt "delete" key .ok s (server (.delete key) s)

/-- A client without connections in words. -/
def describe (c : Client) : List Char :=
  "RedisRemoteCache \x7b status: Status \x7b max_size: ".toList ++ decimal c.poolSize ++
    ", size: 0, available: 0, waiting: 0 \x7d \x7d".toList

end Client

end Roster.Redis
