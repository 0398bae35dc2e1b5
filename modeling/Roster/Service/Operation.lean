import Roster.Program
import Roster.Request
import Roster.Store.Repository

/-!
# What a directory service does

The operations on the directory, and transactions: programs of calls on a unit of work, which take
effect together or not at all. A service is anything that answers them.

* `Operation` are the operations, `Operation.Reply` what they answer.
* `Closure` are the bodies of transactions.
* `UserService` is a service, given by its answers in every state.
-/

namespace Roster.Service

open Roster.Store Roster.Time

/-- An operation on the directory. -/
inductive Operation where
  | create (request : CreateRequest)
  | get (id : UserId)
  | update (id : UserId) (request : UpdateRequest)
  | delete (id : UserId)
  | list (page : PageRequest)
  deriving DecidableEq, Repr

/-- What an operation gives when it succeeds. -/
abbrev Operation.Result : Operation → Type
  | .create _ => User
  | .get _ => User
  | .update .. => User
  | .delete _ => Unit
  | .list _ => Page User

/-- What an operation answers. -/
abbrev Operation.Reply (op : Operation) : Type := Except Failure op.Result

/-! ### Stamps -/

/-- A step that needs users or a stamp. A new user gets an id that nobody has and the present moment;
changes and deletions get the present moment. -/
inductive StoreAct where
  | call (c : Call)
  | newUser
  | changeMoment
  | deletionMoment
  deriving DecidableEq, Repr

/-- What a step answers. -/
abbrev StoreAct.Reply : StoreAct → Type
  | .call c => c.Reply
  | .newUser => UserId × Timestamp
  | .changeMoment => Timestamp
  | .deletionMoment => Timestamp

/-- A program of such steps. -/
abbrev StoreProgram := Program StoreAct StoreAct.Reply

/-! ### Transactions -/

/-- A step of a transaction. Calls are staged on its unit of work or made directly on the repository
outside it. -/
inductive TxAct where
  | staged (act : StoreAct)
  | outside (act : StoreAct)
  | nested
  | commit
  | rollback
  deriving DecidableEq, Repr

/-- What a step of a transaction answers. -/
abbrev TxAct.Reply : TxAct → Type
  | .staged act => act.Reply
  | .outside act => act.Reply
  | .nested => Except Failure Unit
  | .commit => Except Failure Unit
  | .rollback => Except Failure Unit

/-- The body of a transaction: it ends with whether it succeeded, and with notes of type `α`. -/
abbrev Closure (α : Type) := Program TxAct TxAct.Reply (α × Except Failure Unit)

/-! ### Services -/

/-- A service with states of type `σ`: how it answers operations and what it makes of transactions.
The notes of a transaction are there if its body was run. -/
structure UserService (σ : Type) where
  run : (op : Operation) → σ → op.Reply × σ
  transact : {α : Type} → Closure α → σ → (Option α × Except Failure Unit) × σ

end Roster.Service
