import GShare.Accounting.Roster
import GShare.Machine.Calls
import Mathlib.Data.List.Sort
import Mathlib.Data.Int.Basic

/-! # The audit log

`AuditService` and the retention worker. A row carries the entry hash of the row that was the newest when it
was appended, and a hash of its own over that one and over its content. An append reads the newest
row first and inserts its own later; `appendProgram` lets any number of appends interleave there.
`verify_chain` walks the rows from the oldest to the newest by `created_at` and id. Retention deletes the
oldest rows and records what the first row that is left refers to. Columns outside the hash are left out.
-/

namespace GShare.Model.Audit

open Accounting Machine

/-- `GENESIS`: what the first row refers to. -/
def genesis : String := "GENESIS"

/-- A JSON value: null, a string, or any other by its canonical text. -/
inductive Json where
  | null
  | text (value : String)
  | other (canonical : String)
deriving DecidableEq, Repr

/-- A JSON object up to equality: its fields in the order of their keys, as `sort_keys` writes them. -/
structure Detail where
  fields : List (String × Json)
  sorted : (fields.map Prod.fst).Pairwise (· < ·)
deriving DecidableEq, Repr

namespace Detail

def empty : Detail := ⟨[], List.Pairwise.nil⟩

def get (detail : Detail) (key : String) : Option Json := detail.fields.lookup key

end Detail

/-- A `datetime`: the reading of a wall clock, and the offset of its zone from UTC unless it is naive. -/
structure Datetime where
  wall : ℤ
  zone : Option ℤ
deriving DecidableEq, Repr

/-- The date, the time and the offset that `isoformat` writes. -/
structure IsoText where
  wall : ℤ
  offset : ℤ
deriving DecidableEq, Repr

namespace Datetime

def utc (instant : ℤ) : Datetime := ⟨instant, some 0⟩

/-- A naive datetime is taken to be in UTC. -/
def aware (ts : Datetime) : Datetime := ⟨ts.wall, some (ts.zone.getD 0)⟩

/-- The moment meant, which is what the column stores and gives back in UTC. -/
def instant (ts : Datetime) : ℤ := ts.wall - ts.zone.getD 0

def isoformat (ts : Datetime) : IsoText := ⟨ts.wall, ts.zone.getD 0⟩

end Datetime

/-- The object that `_entry_hash` serialises next to the previous hash. -/
structure Payload where
  id : ℕ
  actor : String
  action : String
  target : String
  result : String
  detail : Detail
  createdAt : IsoText
deriving DecidableEq, Repr

/-- The digest of a previous hash and a payload, in hexadecimal: neither the marker nor the empty text. -/
structure Hasher where
  digest : String → Payload → String
  ne_genesis : ∀ previous payload, digest previous payload ≠ genesis
  ne_empty : ∀ previous payload, digest previous payload ≠ ""

/-- The digest keeps what it is given. -/
def Hasher.Injective (hasher : Hasher) : Prop :=
  ∀ {previous other : String} {payload change : Payload},
    hasher.digest previous payload = hasher.digest other change → previous = other ∧ payload = change

/-- A row of `audit_log`. -/
structure AuditLog where
  id : ℕ
  actor : String
  action : String
  target : Option String
  result : Option String
  detail : Detail
  createdAt : ℤ
  prevHash : Option String
  entryHash : Option String
deriving DecidableEq, Repr

/-- `text or default`: an absent and an empty text are both false. -/
def orDefault (text : Option String) (default : String) : String :=
  match text with
  | none => default
  | some value => if value = "" then default else value

/-- `_entry_hash`. -/
def entryHash (hasher : Hasher) (prevHash : String) (entryId : ℕ) (actor action : String)
    (target result : Option String) (detail : Detail) (createdAt : Datetime) : String :=
  hasher.digest prevHash
    { id := entryId
      actor := actor
      action := action
      target := orDefault target ""
      result := orDefault result ""
      detail := detail
      createdAt := createdAt.isoformat }

namespace AuditLog

/-- The order of `created_at`, then of the id. -/
def Before (row other : AuditLog) : Prop :=
  row.createdAt < other.createdAt ∨ row.createdAt = other.createdAt ∧ row.id ≤ other.id

instance : DecidableRel Before :=
  fun row other => inferInstanceAs (Decidable (row.createdAt < other.createdAt ∨ _))

/-- What is hashed of a stored row: its time comes back in UTC. -/
def payload (row : AuditLog) : Payload :=
  { id := row.id
    actor := row.actor
    action := row.action
    target := orDefault row.target ""
    result := orDefault row.result ""
    detail := row.detail
    createdAt := (Datetime.utc row.createdAt).isoformat }

def recomputed (hasher : Hasher) (row : AuditLog) : String :=
  Audit.entryHash hasher (orDefault row.prevHash genesis) row.id row.actor row.action row.target row.result
    row.detail (Datetime.utc row.createdAt)

end AuditLog

/-- `audit_log`, whose primary key is the id. -/
abbrev Log := Roster AuditLog.id

/-- `order_by(created_at.asc(), id.asc())`. -/
def oldestFirst (rows : List AuditLog) : List AuditLog := rows.insertionSort AuditLog.Before

/-- `order_by(created_at.desc(), id.desc())`. -/
def newestFirst (rows : List AuditLog) : List AuditLog := (oldestFirst rows).reverse

def lastEntryHash (rows : List AuditLog) : String :=
  orDefault ((newestFirst rows).head?.bind (·.entryHash)) genesis

/-! ### Appends -/

/-- The arguments of `_append`. -/
structure Append where
  actor : String
  action : String
  target : Option String
  result : Option String
  detail : Detail
  createdAt : Option Datetime
deriving DecidableEq, Repr

/-- The body of the operator's callback. -/
structure OperatorAuditEvent where
  actor : String
  action : String
  target : String
  result : String
  detail : Option Detail
  ts : Datetime

/-- `record_operator_action`: the operator's own time is stored and hashed. -/
def recordOperatorAction (ev : OperatorAuditEvent) : Append :=
  { actor := ev.actor
    action := ev.action
    target := some ev.target
    result := some ev.result
    detail := ev.detail.getD .empty
    createdAt := some ev.ts }

/-- `record`, called by this plane, leaves the time to `_append`. -/
def record (actor action : String) (target result : Option String) (detail : Detail) : Append :=
  { actor := actor
    action := action
    target := target
    result := result
    detail := detail
    createdAt := none }

/-- The time an append stores and hashes: its own, or the present. -/
def Append.ts (append : Append) (now : ℤ) : Datetime := (append.createdAt.getD (.utc now)).aware

variable (hasher : Hasher)

/-- The row that `_append` inserts after it read the previous hash. -/
def Append.row (append : Append) (prevHash : String) (entryId : ℕ) (now : ℤ) : AuditLog :=
  { id := entryId
    actor := append.actor
    action := append.action
    target := append.target
    result := append.result
    detail := append.detail
    createdAt := (append.ts now).instant
    prevHash := some prevHash
    entryHash := some (Audit.entryHash hasher prevHash entryId append.actor append.action append.target
      append.result append.detail (append.ts now)) }

/-- An append that nothing comes between. -/
def append (log : Log) (req : Append) (entryId : ℕ) (now : ℤ) : Option Log :=
  log.insert (req.row hasher (lastEntryHash log.rows) entryId now)

inductive AppendCall where
  | reading (req : Append)
  | inserting (req : Append) (prevHash : String)
  | done
deriving DecidableEq, Repr

/-- The id an append draws and the clock it reads. -/
structure Draw where
  id : ℕ
  now : ℤ

def AppendCall.next (hasher : Hasher) (log : Log) : AppendCall → Draw → Option (Log × AppendCall)
  | .reading req, _ => some (log, .inserting req (lastEntryHash log.rows))
  | .inserting req prevHash, draw =>
      (log.insert (req.row hasher prevHash draw.id draw.now)).map fun next => (next, .done)
  | .done, _ => none

def appendProgram : Program Log AppendCall Draw Empty where
  entry call := ∃ req, call = .reading req
  next _ log call draw := call.next hasher log draw
  outside _ change := nomatch change

instance (hasher : Hasher) : DecidablePred (appendProgram hasher).entry
  | .reading req => isTrue ⟨req, rfl⟩
  | .inserting _ _ => isFalse fun ⟨_, same⟩ => AppendCall.noConfusion same
  | .done => isFalse fun ⟨_, same⟩ => AppendCall.noConfusion same

/-! ### Verification -/

inductive Reason where
  | prevHashMismatch
  | entryHashMismatch
deriving DecidableEq, Repr

/-- What `verify_chain` returns. -/
structure Verdict where
  ok : Bool
  checked : ℕ
  brokenAt : Option ℕ
  reason : Option Reason
deriving DecidableEq, Repr

/-- The action under which the retention worker records its anchor, and the field that holds it. -/
def retentionAction : String := "audit.retention"
def anchorField : String := "new_anchor_prev_hash"

def anchor (rows : List AuditLog) : Option Json :=
  (newestFirst (rows.filter (·.action == retentionAction))).head?.bind (·.detail.get anchorField)

/-- `anchor == prev_hash`: a missing anchor and a null one are both `None`. -/
def anchors : Option Json → Option String → Bool
  | none, prevHash | some .null, prevHash => prevHash == none
  | some (.text hash), prevHash => prevHash == some hash
  | some (.other _), _ => false

/-- What the oldest row has to refer to: the anchor where the row names it, and the marker otherwise. -/
def expectedPrev (rows oldest : List AuditLog) : Option String :=
  match oldest.head? with
  | none => some genesis
  | some first =>
      if first.prevHash ≠ some genesis ∧ anchors (anchor rows) first.prevHash then first.prevHash
      else some genesis

/-- The loop of `verify_chain`. -/
def walk (hasher : Hasher) : Option String → ℕ → List AuditLog → Verdict
  | _, checked, [] => ⟨true, checked, none, none⟩
  | expected, checked, row :: rest =>
      if row.prevHash ≠ expected then ⟨false, checked, some row.id, some .prevHashMismatch⟩
      else if some (row.recomputed hasher) ≠ row.entryHash then
        ⟨false, checked, some row.id, some .entryHashMismatch⟩
      else walk hasher row.entryHash (checked + 1) rest

def verifyChain (rows : List AuditLog) (limit : Option ℕ) : Verdict :=
  let oldest := match limit with
    | none => oldestFirst rows
    | some count => (oldestFirst rows).take count
  walk hasher (expectedPrev rows oldest) 0 oldest

/-! ### Retention -/

def batch : ℕ := 10000

def Log.delete (log : Log) (gone : List ℕ) : Log where
  rows := log.rows.filter fun row => row.id ∉ gone
  unique := log.unique.sublist (List.filter_sublist.map AuditLog.id)

def idsBatch (log : Log) (cutoff : ℤ) : List ℕ :=
  ((oldestFirst (log.rows.filter (·.createdAt < cutoff))).take batch).map AuditLog.id

/-- The loop of the worker, with the number of rows removed so far. A round that goes on deletes a row,
so as many rounds as there are rows are enough. -/
def prune (cutoff : ℤ) : ℕ → Log → ℕ → Log × ℕ
  | 0, log, removed => (log, removed)
  | rounds + 1, log, removed =>
      let gone := idsBatch log cutoff
      if gone = [] then (log, removed) else prune cutoff rounds (log.delete gone) (removed + gone.length)

/-- `head.prev_hash if head else None`, as JSON. -/
def anchorValue (prevHash : Option String) : Json := (prevHash.map Json.text).getD .null

section

variable (removed : ℕ) (cutoff : ℤ) (head : Option AuditLog)

/-- What the worker records: how much it removed, up to when, and what the first row left refers to. -/
def retentionFields : List (String × Json) :=
  [("cutoff", .text (toString cutoff)), (anchorField, anchorValue (head.bind (·.prevHash))),
    ("pruned", .other (toString removed))]

theorem retentionFields_sorted : ((retentionFields removed cutoff head).map Prod.fst).Pairwise (· < ·) := by
  change ["cutoff", "new_anchor_prev_hash", "pruned"].Pairwise (· < ·)
  decide

def retentionDetail : Detail :=
  ⟨retentionFields removed cutoff head, retentionFields_sorted removed cutoff head⟩

end

/-- `run` of the retention worker for a cutoff: nothing is recorded when nothing was removed. -/
def retain (log : Log) (cutoff : ℤ) (entryId : ℕ) (now : ℤ) : Option Log :=
  let (left, removed) := prune cutoff log.rows.length log 0
  if removed = 0 then some left
  else append hasher left (record "system" retentionAction none none
    (retentionDetail removed cutoff (oldestFirst left.rows).head?)) entryId now

end GShare.Model.Audit
