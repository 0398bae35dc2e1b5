import Roster.Keyed
import Roster.Text.Digits

/-!
# The local tier

A cache in memory with a budget: every entry has a cost, and entries are admitted as far as the budget
goes. Reads and writes take effect at once, but are only logged for the decision who is admitted;
`maintain` takes that decision for all of them together.

* `get`, `set` and `delete` are the operations, `maintain` the maintenance.
* An entry that is read often is admitted in place of older ones that are read less (`consider`).
* `spent` is the account of what admitted entries cost. It is kept by adding and subtracting costs as
  they are known when a write is applied, and never goes below zero.
-/

namespace Roster.Cache

/-- How large a local tier is: its budget, how many entries are expected, and after how many writes
it is maintained. -/
structure Sizing where
  maxCost : Nat
  numCounters : Nat
  bufferItems : Nat
  deriving DecidableEq, Repr

/-- A value in the local tier. -/
structure Entry where
  value : ByteArray
  /-- The cost that came with the value. -/
  cost : Nat
  /-- Tells the entry from all others, also from earlier ones under its key that have been removed. -/
  life : Nat
  /-- The number of the write that set the value. -/
  write : Nat

/-- An entry that is admitted. -/
structure Resident where
  key : String
  life : Nat
  deriving DecidableEq, Repr

/-- A read that waits for maintenance; `found` is the entry that it hit. -/
structure LoggedRead where
  key : String
  found : Option Nat
  deriving DecidableEq, Repr

/-- A write that waits for maintenance. -/
inductive LoggedWrite where
  /-- A value was set, at a cost in place of an earlier one of the same entry. -/
  | put (key : String) (life write oldCost cost : Nat)
  /-- An entry was removed, the last cost of which is given. -/
  | removal (life cost : Nat)
  deriving DecidableEq, Repr

/-- The local tier. -/
structure Local where
  /-- The budget. -/
  maxCost : Nat
  /-- The number of writes from one maintenance to the next. -/
  bufferItems : Nat
  /-- What reads find. -/
  entries : Keyed String Entry
  /-- The admitted entries, the oldest first. -/
  residents : List Resident
  /-- The account of what they cost. -/
  spent : Nat
  /-- How often keys have been looked up since counting began. -/
  counts : Keyed String Nat
  /-- Whether lookups are counted. -/
  counting : Bool
  /-- Reads that wait for maintenance, the oldest first. -/
  reads : List LoggedRead
  /-- Writes that wait for maintenance, the oldest first. -/
  writes : List LoggedWrite
  /-- The number of all writes so far. -/
  written : Nat
  /-- The number of all entries so far. -/
  lives : Nat
  hits : Nat
  misses : Nat

namespace Local

/-- The greatest cost of an entry. -/
def greatestCost : Nat := 0xffffffff

/-- The greatest count of lookups. -/
def greatestCount : Nat := 15

/-- How many logged reads or writes may wait. -/
def greatestBacklog : Nat := 64

/-- An empty tier. -/
def ofSizing (s : Sizing) : Local where
  maxCost := s.maxCost
  bufferItems := max 1 s.bufferItems
  entries := []
  residents := []
  spent := 0
  counts := []
  counting := false
  reads := []
  writes := []
  written := 0
  lives := 0
  hits := 0
  misses := 0

/-- How often a key has been looked up, as far as counted. -/
def count (c : Local) (key : String) : Nat := (Keyed.get? c.counts key).getD 0

/-! ### Maintenance -/

/-- Whether an entry is admitted. -/
def isResident (c : Local) (life : Nat) : Bool := c.residents.any (·.life = life)

/-- Moves an admitted entry to the young end. -/
def renew (c : Local) (key : String) (life : Nat) : Local :=
  { c with residents := c.residents.filter (·.life ≠ life) ++ [⟨key, life⟩] }

/-- Counts a lookup and, if it was a hit, moves its entry to the young end. -/
def applyRead (c : Local) (r : LoggedRead) : Local :=
  let c := if c.counting then
    { c with counts := Keyed.put c.counts r.key (min greatestCount (c.count r.key + 1)) }
  else c
  match r.found with
  | some life => if c.isResident life then c.renew r.key life else c
  | none => c

/-- Takes an admitted entry of the given cost out. -/
def leave (c : Local) (life cost : Nat) : Local :=
  { c with residents := c.residents.filter (·.life ≠ life), spent := c.spent - cost }

/-- Evicts an admitted entry, unless there is another under its key by now. -/
def evict (c : Local) (r : Resident) : Local :=
  match Keyed.get? c.entries r.key with
  | some e =>
    if e.life = r.life then
      { c with entries := Keyed.erase c.entries r.key }.leave r.life e.cost
    else c
  | none => c

/-- Admitted entries that would have to go for another one. -/
structure Victims where
  gone : List Resident
  /-- What they cost. -/
  weight : Nat
  /-- How often they have been looked up. -/
  count : Nat

/-- The admitted entries from the old end that would have to go for an entry of the given cost and
count: as many as it takes to make room, but no more once they are looked up more often than the
entry. Those that have been removed from under their keys are passed over, also if another is there by
now. -/
def victims (c : Local) (cost own : Nat) : Victims → List Resident → Victims
  | v, [] => v
  | v, r :: rest =>
    if v.weight < cost && v.count ≤ own then
      match Keyed.get? c.entries r.key with
      | some e =>
        if e.life = r.life then
          victims c cost own ⟨v.gone ++ [r], v.weight + e.cost, v.count + c.count r.key⟩ rest
        else victims c cost own v rest
      | none => victims c cost own v rest
    else v

/-- Removes a refused entry, unless its value has been set again. -/
def refuse (c : Local) (key : String) (write : Nat) : Local :=
  match Keyed.get? c.entries key with
  | some e => if e.write = write then { c with entries := Keyed.erase c.entries key } else c
  | none => c

/-- Lets an entry in at the young end. -/
def enter (c : Local) (key : String) (life cost : Nat) : Local :=
  { c with residents := c.residents ++ [⟨key, life⟩], spent := c.spent + cost }

/-- Decides on an entry that is not admitted: it is if there is room, or if it is looked up more often
than those from the old end that it takes the place of. -/
def consider (c : Local) (key : String) (life write cost : Nat) : Local :=
  if c.spent + cost ≤ c.maxCost then c.enter key life cost
  else if c.maxCost < cost then c.refuse key write
  else
    let v := c.victims cost (c.count key) ⟨[], 0, 0⟩ c.residents
    if cost ≤ v.weight && v.count < c.count key then (v.gone.foldl evict c).enter key life cost
    else c.refuse key write

/-- Applies a logged write. The write of an entry that has been removed since is passed over. -/
def applyWrite (c : Local) : LoggedWrite → Local
  | .removal life cost => if c.isResident life then c.leave life cost else c
  | .put key life write oldCost cost =>
    match Keyed.get? c.entries key with
    | none => c
    | some e =>
      if e.life ≠ life then c
      else if c.isResident life then
        { c with spent := c.spent - oldCost + cost }.renew key life
      else c.consider key life write cost

/-- Starts counting lookups once half of the budget is spent. -/
def startCounting (c : Local) : Local :=
  if !c.counting && c.maxCost / 2 ≤ c.spent then { c with counting := true } else c

/-- Evicts entries from the old end until those that went cost at least `excess`. -/
def shrink (excess : Nat) (c : Local) : List Resident → Local
  | [] => c
  | r :: rest =>
    if excess = 0 then c
    else
      let cost := ((Keyed.get? c.entries r.key).map (·.cost)).getD 0
      shrink (excess - cost) (c.evict r) rest

/-- Keeps to the budget. -/
def keepBudget (c : Local) : Local := shrink (c.spent - c.maxCost) c c.residents

/-- Takes account of all logged reads and writes. A tier without a budget has nothing to maintain. -/
def maintain (c : Local) : Local :=
  if c.maxCost = 0 then c
  else
    let d := c.reads.foldl applyRead { c with reads := [] }
    let d := c.writes.foldl applyWrite { d with writes := [] }
    keepBudget (startCounting d)

/-- Logs a write, after maintenance if too many wait. -/
def logWrite (c : Local) (w : LoggedWrite) : Local :=
  let c := if greatestBacklog ≤ c.writes.length then c.maintain else c
  { c with writes := c.writes ++ [w] }

/-- Logs a read, after maintenance if too many wait. -/
def logRead (c : Local) (r : LoggedRead) : Local :=
  let c := if greatestBacklog ≤ c.reads.length then c.maintain else c
  { c with reads := c.reads ++ [r] }

/-! ### Operations -/

/-- Looks up a key. -/
def get (c : Local) (key : String) : Option ByteArray × Local :=
  if c.maxCost = 0 then (none, { c with misses := c.misses + 1 })
  else
    match Keyed.get? c.entries key with
    | some e =>
      let c := c.logRead ⟨key, some e.life⟩
      (some e.value, { c with hits := c.hits + 1 })
    | none =>
      let c := c.logRead ⟨key, none⟩
      (none, { c with misses := c.misses + 1 })

/-- Puts a value under a key and logs the write. -/
def write (c : Local) (key : String) (value : ByteArray) (cost : Nat) : Local :=
  if c.maxCost = 0 then c
  else
    let cost := min cost greatestCost
    match Keyed.get? c.entries key with
    | some e =>
      { c with entries := Keyed.put c.entries key ⟨value, cost, e.life, c.written⟩ }.logWrite
        (.put key e.life c.written e.cost cost)
    | none =>
      { c with
        entries := Keyed.put c.entries key ⟨value, cost, c.lives, c.written⟩
        lives := c.lives + 1 }.logWrite (.put key c.lives c.written 0 cost)

/-- Sets the value under a key at a cost, and maintains the tier if it is time. -/
def set (c : Local) (key : String) (value : ByteArray) (cost : Nat) : Local :=
  let c := c.write key value cost
  let c := { c with written := c.written + 1 }
  if c.written % c.bufferItems = 0 then c.maintain else c

/-- Removes the value under a key. -/
def delete (c : Local) (key : String) : Local :=
  match Keyed.get? c.entries key with
  | none => c
  | some e =>
    { c with entries := Keyed.erase c.entries key }.logWrite (.removal e.life e.cost)

/-- The tier in words. -/
def describe (c : Local) : List Char :=
  open Roster.Text in
  "LocalCache \x7b max_cost: ".toList ++ decimal c.maxCost ++ ", buffer_items: ".toList ++
    decimal c.bufferItems ++ ", stats: LocalCacheStats \x7b hits: ".toList ++ decimal c.hits ++
    ", misses: ".toList ++ decimal c.misses ++ ", entry_count: ".toList ++
    decimal c.residents.length ++ ", weighted_size: ".toList ++ decimal c.spent ++
    " \x7d \x7d".toList

end Local

end Roster.Cache
