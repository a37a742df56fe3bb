import ChessnutMove.Protocol.Command
import ChessnutMove.Protocol.Decode

set_option autoImplicit false

/-! # Notification routing

`transport/mod.rs`: a notification is tagged with the characteristic that produced it, and
`decodeNotification` routes it to the decoder of that source. The acknowledgement of the
realtime-enable write is recognised by its first byte and kept apart from observable events. -/

namespace ChessnutMove

/-- Identifies which characteristic produced a notification. -/
inductive NotificationSource
  | position | commandResponse
  deriving DecidableEq, Repr

/-- A notification returned by a transport. -/
structure Notification where
  source : NotificationSource
  bytes : List UInt8
  deriving DecidableEq, Repr

/-- Reports why a tagged notification could not be decoded. -/
inductive DecodeNotificationError
  | position (error : DecodePositionNotificationError)
  | commandResponse (error : DecodeResponseNotificationError)
  deriving DecidableEq, Repr

/-- A notification decoded by a board session. -/
inductive DecodedNotification
  | event (event : BoardEvent)
  | realtimeUpdatesAcknowledged
  deriving DecidableEq

/-- First byte of the board's undocumented realtime-enable acknowledgement. -/
def realtimeUpdatesAcknowledgement : UInt8 := 0x23

def decodeNotification (notification : Notification) :
    Except DecodeNotificationError DecodedNotification :=
  match notification.source with
  | .position =>
      (((decodePositionNotification notification.bytes).map .positionChanged).map .event).mapError
        .position
  | .commandResponse =>
      if notification.bytes.head? = some realtimeUpdatesAcknowledgement then
        .ok .realtimeUpdatesAcknowledged
      else
        ((decodeResponseNotification notification.bytes).map .event).mapError .commandResponse

/-- The value a notification makes observable; the acknowledgement makes none. -/
def observe (notification : Notification) : Option (Except DecodeNotificationError BoardEvent) :=
  match decodeNotification notification with
  | .ok (.event event) => some (.ok event)
  | .ok .realtimeUpdatesAcknowledged => none
  | .error error => some (.error error)

/-- One call a session makes on its transport, other than `next_notification`. -/
inductive TransportCall
  | subscribe (source : NotificationSource)
  | unsubscribe (source : NotificationSource)
  | writeCommand (command : Command)
  | close
  deriving DecidableEq

end ChessnutMove
