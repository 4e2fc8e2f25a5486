import GShare.Machine.Calls
import GShare.Model.Basic

/-! # The idempotency key of a creation

`create_session` claims the key of its request in Redis before it persists a row, and names the row
there afterwards. A request that finds the key taken polls for the session. Each point of a call is
before one Redis command or one transaction; the entry of the key expires after an hour.
-/

namespace GShare.Model

open Machine

/-- What one key has come to: its entry, with the place of the call that wrote it, is `pending` while it
names no session. -/
structure KeyedStore where
  entry : Option (ℕ × Option SessionId)
  sessions : List SessionId
deriving DecidableEq, Repr

def KeyedStore.prior (store : KeyedStore) : Option SessionId := store.entry.bind Prod.snd

inductive KeyedCall where
  | called
  | loading (id : SessionId) (left : Option ℕ)
  | claiming
  | polling (left : ℕ)
  | claimed
  | persisted (id : SessionId)
  | stored (id : SessionId)
  | returned (id : SessionId)
  | failed
deriving DecidableEq, Repr

/-- The id of a new row, and whether the transactions of the step succeed. -/
structure KeyedInput where
  id : SessionId
  ok : Bool

def KeyedCall.next (place : ℕ) (store : KeyedStore) (call : KeyedCall) (input : KeyedInput) :
    Option (KeyedStore × KeyedCall) :=
  match call with
  | .called => some (store, store.prior.elim .claiming (.loading · none))
  | .loading id left =>
    some (store, if id ∈ store.sessions then .returned id else left.elim .claiming .polling)
  | .claiming =>
    if store.entry = none then some ({ store with entry := some (place, none) }, .claimed)
    else some (store, .polling 50)
  | .polling 0 => some (store, .failed)
  | .polling (left + 1) => some (store, store.prior.elim (.polling left) (.loading · left))
  | .claimed =>
    if input.ok then some ({ store with sessions := input.id :: store.sessions }, .persisted input.id)
    else some (store, .failed)
  | .persisted id => some ({ store with entry := some (place, id) }, .stored id)
  -- The row stays when a later gate refuses the session.
  | .stored id => some (store, if input.ok then .returned id else .failed)
  | .returned _ | .failed => none

/-- `create_session` from its key on, for the requests of one user with one key. -/
def keyedProgram : Program KeyedStore KeyedCall KeyedInput Unit where
  entry call := call = .called
  next := KeyedCall.next
  outside store _ := some { store with entry := none }

instance : DecidablePred keyedProgram.entry := fun call => inferInstanceAs (Decidable (call = .called))

end GShare.Model
