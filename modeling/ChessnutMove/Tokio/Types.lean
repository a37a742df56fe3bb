import ChessnutMove.Library.BoundedChannel
import ChessnutMove.Transport.Notification
import Mathlib.Algebra.Group.Nat.Defs

set_option autoImplicit false

/-! # Types of the Tokio actor

Clock readings, configuration, and what handles and the actor send each other
(`transport/tokio.rs`). A oneshot sender is the identity of its channel: every request gets a
fresh `ReplyId`, and answering it is an event that carries the identity and the value. -/

namespace ChessnutMove.Tokio

/-! ## Time -/

def nanosPerSecond : Nat := 1000000000

/-- `std::time::Duration`: unsigned 64-bit seconds and nanoseconds below one second. -/
structure Duration where
  nanos : Nat
  bound : nanos < 2 ^ 64 * nanosPerSecond
  deriving DecidableEq

/-- `Duration::from_secs`. -/
def Duration.fromSecs (secs : Nat) (h : secs < 2 ^ 64) : Duration :=
  ⟨secs * nanosPerSecond, Nat.mul_lt_mul_of_pos_right h (by decide)⟩

/-- `tokio::time::Instant`, a reading of the monotonic clock: signed 64-bit seconds and nanoseconds
    below one second. -/
@[ext]
structure Instant where
  nanos : Nat
  bound : nanos < 2 ^ 63 * nanosPerSecond
  deriving DecidableEq

namespace Instant

def zero : Instant := ⟨0, by decide⟩

/-- `Instant::checked_add`. The operator `+` panics where this is `none`. -/
def checkedAdd (start : Instant) (d : Duration) : Option Instant :=
  if h : start.nanos + d.nanos < 2 ^ 63 * nanosPerSecond then some ⟨start.nanos + d.nanos, h⟩
  else none

theorem checkedAdd_eq_some_iff {start sum : Instant} {d : Duration} :
    start.checkedAdd d = some sum ↔ sum.nanos = start.nanos + d.nanos := by
  obtain ⟨nanos, hnanos⟩ := sum
  unfold checkedAdd
  split
  · simp only [Option.some.injEq, Instant.mk.injEq, eq_comm]
  · next hlarge =>
      simp only [reduceCtorEq, false_iff]
      omega

/-- The sum lies in the range of instants. Tokio's timer is assumed to accept the whole range. -/
def Fits (start : Instant) (d : Duration) : Prop :=
  start.nanos + d.nanos < 2 ^ 63 * nanosPerSecond

instance (start : Instant) (d : Duration) : Decidable (start.Fits d) :=
  inferInstanceAs (Decidable (_ < _))

theorem checkedAdd_eq_none_iff {start : Instant} {d : Duration} :
    start.checkedAdd d = none ↔ ¬ start.Fits d := by
  unfold checkedAdd Fits
  split
  · next hfits => exact iff_of_false (Option.some_ne_none _) (not_not_intro hfits)
  · next hlarge => exact iff_of_true rfl hlarge

end Instant

/-! ## Configuration and lifecycle -/

/-- Queue capacities and timeout behavior for a board actor. -/
structure ActorConfig where
  commandCapacity : Nat
  eventCapacity : Nat
  queryCapacity : Nat
  requestTimeout : Duration
  deriving DecidableEq

/-- `ActorConfig::default()`. -/
def ActorConfig.default : ActorConfig where
  commandCapacity := 32
  eventCapacity := 64
  queryCapacity := 32
  requestTimeout := .fromSecs 5 (by decide)

/-- Reports invalid actor configuration supplied to `spawn`. -/
inductive SpawnError
  | zeroCommandCapacity | zeroEventCapacity
  deriving DecidableEq, Repr

inductive LifecycleState
  | starting | running | shuttingDown | stopped | faulted
  deriving DecidableEq, Repr

/-- Reports why a `BoardHandle` operation could not complete. -/
inductive HandleError
  | actorStopped | shuttingDown | transportFailed | requestTimedOut | queryQueueFull
  deriving DecidableEq, Repr

/-- Fatal error retained when the board actor terminates. -/
inductive ActorError (ε : Type)
  | transport (error : ε)
  deriving DecidableEq

/-! ## Requests and replies -/

/-- The identity of a oneshot channel. -/
abbrev ReplyId := Nat

/-- What a broadcast subscriber keeps: how many values had been published when it subscribed. -/
structure EventStream where
  subscribedAt : Nat
  deriving DecidableEq

/-- The success values of the four kinds of request. -/
inductive ReplyValue
  | done
  | batteryStatus (status : BatteryStatus)
  | pieceStatus (status : PieceStatus)
  | stream (events : EventStream)
  deriving DecidableEq

abbrev Reply := Except HandleError ReplyValue

/-- Query whose response must be correlated by notification type. -/
inductive QueryRequest
  | battery (reply : ReplyId)
  | pieces (reply : ReplyId)
  deriving DecidableEq

def QueryRequest.reply : QueryRequest → ReplyId
  | .battery reply => reply
  | .pieces reply => reply

/-- The command associated with this response type. -/
def QueryRequest.command : QueryRequest → Command
  | .battery _ => Command.readBatteryLevel
  | .pieces _ => Command.readPieceStatus

/-- Request sent from a handle to the actor. -/
inductive Message
  | send (command : Command) (reply : ReplyId)
  | query (query : QueryRequest)
  | subscribeEvents (reply : ReplyId)
  | shutdown (reply : ReplyId)
  deriving DecidableEq

def Message.reply : Message → ReplyId
  | .send _ reply => reply
  | .query q => q.reply
  | .subscribeEvents reply => reply
  | .shutdown reply => reply

/-- Active serialized query and its response deadline. -/
structure PendingQuery where
  request : QueryRequest
  deadline : Instant
  deriving DecidableEq

/-- The requests of a `BoardHandle`: `send`, `battery_status`, `piece_status`, `subscribe_events`
    and `shutdown`. Each creates a oneshot channel and enqueues one message. -/
inductive Request
  | send (command : Command)
  | batteryStatus
  | pieceStatus
  | subscribeEvents
  | shutdown
  deriving DecidableEq

def Request.message (reply : ReplyId) : Request → Message
  | .send command => .send command reply
  | .batteryStatus => .query (.battery reply)
  | .pieceStatus => .query (.pieces reply)
  | .subscribeEvents => .subscribeEvents reply
  | .shutdown => .shutdown reply

@[simp] theorem Request.reply_message (reply : ReplyId) (request : Request) :
    (request.message reply).reply = reply := by
  cases request <;> rfl

/-- A published value: an event, or the decode error of a malformed notification. -/
abbrev Published := Except DecodeNotificationError BoardEvent

end ChessnutMove.Tokio
