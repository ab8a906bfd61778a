import IndustrialGateway.SinkPublisher

/-!
# The latest-status queue

`_LatestStatusQueue` of `services/runtime_manager.py`, between the workers and
whoever drains the events of the runtime. An event on a tag or a server replaces
the queued one on the same tag or server and goes to the end; every other event
is kept.
-/

namespace IndustrialGateway

/-- The tuple that identifies a queued event. -/
inductive StatusKey where
  | tagUpdate (device tag : String)
  | serverStatus (device : String)
  | event (sequence : Nat)
  deriving DecidableEq, Repr

/-- The entries of the event's dictionary; a text is no dictionary. -/
def StatusEvent.entries : StatusEvent → List (String × PyValue F)
  | .text _ => []
  | .tagUpdate device tagGroup tag nodeId mode timestamp quality error =>
    [("type", .str "tag_update"), ("device", .str device), ("tag_group", .str tagGroup),
      ("tag", .str tag), ("node_id", .str nodeId), ("mode", .str mode),
      ("timestamp", .str timestamp), ("quality", .str quality),
      ("error", (error.map .str).getD .none)]
  | .serverStatus device status timestamp error =>
    [("type", .str "server_status"), ("device", .str device), ("status", .str status),
      ("timestamp", .str timestamp), ("error", (error.map .str).getD .none)]

/-- Whether the event reports the state of a tag or a server. -/
def StatusEvent.hasState : StatusEvent → Bool
  | .text _ => false
  | _ => true

/-- `item.get("node_id") or item.get("tag")` of a tag update. -/
def tagOf (nodeId tag : String) : String := if nodeId = "" then tag else nodeId

structure LatestStatusQueue where
  items : OrderedDict StatusKey StatusEvent := ∅
  sequence : Nat := 0

namespace LatestStatusQueue

/-- `_key`, once the sequence number has been counted up for an event of no tag
or server. -/
def key (sequence : Nat) : StatusEvent → StatusKey
  | .tagUpdate device _ tag nodeId _ _ _ _ => .tagUpdate device (tagOf nodeId tag)
  | .serverStatus device _ _ _ => .serverStatus device
  | .text _ => .event sequence

def nextSequence (sequence : Nat) : StatusEvent → Nat
  | .text _ => sequence + 1
  | _ => sequence

def put (q : LatestStatusQueue) (item : StatusEvent) : LatestStatusQueue :=
  let sequence := nextSequence q.sequence item
  ⟨q.items.setLast (key sequence item) item, sequence⟩

/-- `get_nowait`; `none` is the exception `Empty`. -/
def getNowait (q : LatestStatusQueue) : Option (StatusEvent × LatestStatusQueue) :=
  q.items.popFirst.map fun (p, rest) => (p.2, { q with items := rest })

/-- `_clear_queue`; the sequence number stays. -/
def clear (q : LatestStatusQueue) : LatestStatusQueue := { q with items := ∅ }

/-- The tag or server of an event stands in its key, whatever the sequence
number. -/
theorem key_congr {n n' : Nat} {e e' : StatusEvent} (h : key n e = key n' e') (m : Nat) :
    key m e = key m e' := by
  cases e with
  | text message =>
    cases e' with
    | text message' => rfl
    | tagUpdate => cases h
    | serverStatus => cases h
  | tagUpdate device tagGroup tag nodeId mode timestamp quality error =>
    cases e' with
    | text message' => cases h
    | tagUpdate => exact h
    | serverStatus => cases h
  | serverStatus device status timestamp error =>
    cases e' with
    | text message' => cases h
    | tagUpdate => cases h
    | serverStatus => exact h

/-- Tag updates have the same fields, and so have server states. -/
theorem entries_keys {n : Nat} {e e' : StatusEvent} (h : key n e = key n e') :
    (e.entries (F := F)).map Prod.fst = (e'.entries (F := F)).map Prod.fst := by
  cases e with
  | text message =>
    cases e' with
    | text message' => rfl
    | tagUpdate => cases h
    | serverStatus => cases h
  | tagUpdate device tagGroup tag nodeId mode timestamp quality error =>
    cases e' with
    | text message' => cases h
    | tagUpdate => rfl
    | serverStatus => cases h
  | serverStatus device status timestamp error =>
    cases e' with
    | text message' => cases h
    | tagUpdate => cases h
    | serverStatus => rfl

end LatestStatusQueue

end IndustrialGateway
