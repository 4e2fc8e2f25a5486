import GShare.Model.Session.Scheduler

/-! # Generations of the custom resource

The session together with the generation of its custom resource in the cluster. Every patch of the
specification raises the generation; a resume's patch reports the new one back, and the resume writes it
to the marker in Redis in a later step. A report carries the generation it was computed for. It may
arrive any time later, but never before its generation.
-/

namespace GShare.Model

open Machine

/-- The session, the generation of its custom resource, and the one its latest resume produced. -/
structure Watched where
  world : World
  generation : ℕ
  latest : Option ℕ

/-- What happens beside the calls. -/
inductive ClusterChange where
  /-- Somebody else patches the specification. -/
  | patch
  /-- The marker is a day old. -/
  | expire

namespace Watched

/-- The patch of a resume; a cluster that reports no generation back reports zero. -/
def patch (store : Watched) (env : Env) : Option Watched :=
  let patched := if env.generation = 0 then store.generation + 1 else env.generation
  if store.generation ≤ patched then some { store with generation := patched, latest := some patched }
  else none

/-- What the cluster has to do with the next step of a call. -/
def cluster (store : Watched) (env : Env) : SessionCall → Option Watched
  | .start .priced => if env.accepted then store.patch env else some store
  | .callback event =>
    if (positive? event.generation).any (· ≤ store.generation) then some store else none
  | _ => some store

def next (store : Watched) (env : Env) (call : SessionCall) : Option (Watched × SessionCall) :=
  (store.cluster env call).bind fun store =>
    (call.next store.world env).map fun (world, after) => ({ store with world := world }, after)

def beside (store : Watched) : ClusterChange → Option Watched
  | .patch => some { store with generation := store.generation + 1 }
  | .expire => some { store with world := { store.world with resumeGeneration := none } }

end Watched

/-- Any number of calls on the session, and reports that are delayed and reordered at will. -/
def watchedProgram : Program Watched SessionCall Env ClusterChange where
  entry call := call.isEntry
  next _ store call env := store.next env call
  outside := Watched.beside

instance : DecidablePred watchedProgram.entry :=
  fun call => inferInstanceAs (Decidable (call.isEntry))

end GShare.Model
