import Roster.Service.Operation
import Roster.Text.Blank

/-!
# The service on a repository

The service that works on a repository and nothing else. It checks requests, brings names and
addresses to their normal forms, and leaves the rest to the repository.

* `operate` gives each operation as a program of calls on the repository.
* `Backing` says what stands behind the service, `World` adds the source of stamps.
* `base` is the service; `runClosure` runs the body of a transaction.
-/

namespace Roster.Service

open Roster.Store Roster.Text Roster.Time

/-! ### Operations -/

/-- The failure of a blank name. -/
def blankName : Failure := .validation "name: Name must not be blank"

/-- A name without blanks around it. -/
def normalName (name : String) : Except Failure String :=
  if allBlank name then .error blankName else .ok (trimmed name)

/-- An address in normal form. -/
def normalEmail (email : String) : Except Failure Email :=
  match Email.ofText email with
  | .ok e => .ok e
  | .error e => .error (.ofEmail e)

/-- A call on the repository. -/
def call (c : Call) : StoreProgram c.Reply := Program.take (StoreAct.call c)

/-- Looks up a live user. -/
def load (id : UserId) : StoreProgram (Except Failure User) := do
  match ← call (.find id) with
  | .error e => return .error e
  | .ok none => return .error (.noUser id)
  | .ok (some u) => return .ok u

/-- Saves a new user. -/
def saveNew (name : String) (email : Email) : StoreProgram (Except Failure User) := do
  let (id, now) ← Program.take StoreAct.newUser
  call (.save (.create id name email now))

/-- Saves a user with another name or address, if one is given. -/
def saveChanged (u : User) (name : Option String) (email : Option Email) :
    StoreProgram (Except Failure User) := do
  if name.isNone && email.isNone then call (.update u)
  else
    let now ← Program.take StoreAct.changeMoment
    let u := match name with
      | some name => u.rename name now
      | none => u
    let u := match email with
      | some email => u.changeEmail email now
      | none => u
    call (.update u)

/-- Creates a user. -/
def createUser (r : CreateRequest) : StoreProgram (Except Failure User) :=
  match do r.check; return (← normalName r.name, ← normalEmail r.email) with
  | .error e => return .error e
  | .ok (name, email) => saveNew name email

/-- The normal forms of what a request changes. -/
def normalChanges (r : UpdateRequest) : Except Failure (Option String × Option Email) := do
  let name ← r.name.mapM normalName
  let email ← r.email.mapM normalEmail
  return (name, email)

/-- Changes a user. -/
def updateUser (id : UserId) (r : UpdateRequest) : StoreProgram (Except Failure User) :=
  match r.check with
  | .error e => return .error e
  | .ok () => do
    match ← load id with
    | .error e => return .error e
    | .ok u =>
      match normalChanges r with
      | .error e => return .error e
      | .ok (name, email) => saveChanged u name email

/-- Deletes a user. -/
def deleteUser (id : UserId) : StoreProgram (Except Failure Unit) := do
  let now ← Program.take StoreAct.deletionMoment
  match ← call (.delete id now) with
  | .error e => return .error e
  | .ok true => return .ok ()
  | .ok false => return .error (.noUser id)

/-- An operation as a program of calls on the repository. -/
def operate : (op : Operation) → StoreProgram op.Reply
  | .create r => createUser r
  | .get id => load id
  | .update id r => updateUser id r
  | .delete id => deleteUser id
  | .list r => call (.list r)

/-! ### What stands behind the service -/

/-- What keeps the users, with states of type `σ`. -/
structure Backing (σ : Type) where
  run : σ → (c : Call) → c.Reply × σ
  begin : σ → Except Failure UnitOfWork
  commit : UnitOfWork → σ → Except Failure Unit × UnitOfWork × σ

/-- A repository that keeps its users in a table. -/
def tableBacking : Backing Repository where
  run := Repository.run
  begin r := .ok (.begin r)
  commit := UnitOfWork.commit

/-- A repository that keeps nothing and has no transactions: users are given back as they came. -/
def echoBacking : Backing Unit where
  run _ c := (match c with
    | .save u => .ok u
    | .find _ => .ok none
    | .update u => .ok u
    | .delete .. => .ok false
    | .list r => .ok (.empty r.page r.size), ())
  begin _ := .error noTransactions
  commit w _ := (.error finished, w, ())

/-- The stamps to come: ids for new users, and moments for creations and changes and for deletions. -/
structure Stamps where
  ids : Nat → UserId
  moments : Nat → Timestamp
  deletionMoments : Nat → Timestamp
  /-- How many ids, moments and moments of deletion have been used. -/
  usedIds : Nat
  usedMoments : Nat
  usedDeletions : Nat

/-- The state behind the service: of what keeps the users, and of the stamps. -/
structure World (σ : Type) where
  store : σ
  stamps : Stamps

variable {σ : Type}

/-- Draws the stamps of a new user. -/
def Stamps.newUser (s : Stamps) : (UserId × Timestamp) × Stamps :=
  ((s.ids s.usedIds, s.moments s.usedMoments),
    { s with usedIds := s.usedIds + 1, usedMoments := s.usedMoments + 1 })

/-- Draws the moment of a change. -/
def Stamps.change (s : Stamps) : Timestamp × Stamps :=
  (s.moments s.usedMoments, { s with usedMoments := s.usedMoments + 1 })

/-- Draws the moment of a deletion. -/
def Stamps.deletion (s : Stamps) : Timestamp × Stamps :=
  (s.deletionMoments s.usedDeletions, { s with usedDeletions := s.usedDeletions + 1 })

/-- What a step does, given what a call does. -/
def handleWith {τ : Type} (onCall : τ → (c : Call) → c.Reply × τ) :
    Program.Handler StoreAct StoreAct.Reply (τ × Stamps)
  | .call c, (t, s) => ((onCall t c).1, ((onCall t c).2, s))
  | .newUser, (t, s) => (s.newUser.1, (t, s.newUser.2))
  | .changeMoment, (t, s) => (s.change.1, (t, s.change.2))
  | .deletionMoment, (t, s) => (s.deletion.1, (t, s.deletion.2))

/-- What a step does to the state behind the service. -/
def Backing.handle (b : Backing σ) (act : StoreAct) (w : World σ) : act.Reply × World σ :=
  let (reply, store, stamps) := handleWith b.run act (w.store, w.stamps)
  (reply, ⟨store, stamps⟩)

/-! ### Transactions -/

/-- The state while a transaction runs. -/
structure Running (σ : Type) where
  world : World σ
  unit : UnitOfWork

/-- What a step of a transaction does. -/
def Backing.handleTx (b : Backing σ) : Program.Handler TxAct TxAct.Reply (Running σ)
  | .staged act, r =>
    let (reply, unit, stamps) := handleWith UnitOfWork.run act (r.unit, r.world.stamps)
    (reply, ⟨{ r.world with stamps := stamps }, unit⟩)
  | .outside act, r =>
    let (reply, world) := b.handle act r.world
    (reply, { r with world := world })
  | .nested, r => (.error noTransactions, r)
  | .commit, r =>
    let (reply, unit, store) := b.commit r.unit r.world.store
    (reply, ⟨{ r.world with store := store }, unit⟩)
  | .rollback, r => (.ok (), { r with unit := r.unit.rollback })

/-- Commits after a body that succeeded, and gives the unit up after one that failed. -/
def Backing.finish (b : Backing σ) (verdict : Except Failure Unit) (r : Running σ) :
    Except Failure Unit × Running σ :=
  match verdict with
  | .error e => (.error e, { r with unit := r.unit.rollback })
  | .ok () =>
    let (reply, unit, store) := b.commit r.unit r.world.store
    let r : Running σ := ⟨{ r.world with store := store }, unit⟩
    match reply with
    | .ok () => (.ok (), r)
    | .error e => (.error e, { r with unit := r.unit.rollback })

/-- Runs the body of a transaction on a unit of work that has been begun, and finishes the unit. -/
def Backing.runClosure {α : Type} (b : Backing σ) (body : Closure α) (r : Running σ) :
    (α × Except Failure Unit) × Running σ :=
  let ((notes, verdict), r) := body.run b.handleTx r
  let (result, r) := b.finish verdict r
  ((notes, result), r)

/-- Runs a transaction. -/
def Backing.transact {α : Type} (b : Backing σ) (body : Closure α) (w : World σ) :
    (Option α × Except Failure Unit) × World σ :=
  match b.begin w.store with
  | .error e => ((none, .error e), w)
  | .ok unit =>
    let ((notes, result), r) := b.runClosure body ⟨w, unit⟩
    ((some notes, result), r.world)

/-- The service on a repository. -/
def base (b : Backing σ) : UserService (World σ) where
  run op := (operate op).run b.handle
  transact body := b.transact body

end Roster.Service
