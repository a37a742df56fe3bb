import ChessnutMove.Transport.Notification

set_option autoImplicit false

/-! # GATT characteristics

The characteristics of the Move protocol and their identifiers (`transport/gatt.rs`), and the one
that every notification source stands for (`transport/mod.rs`). -/

namespace ChessnutMove

/-- A Bluetooth UUID. -/
structure Uuid where
  bits : BitVec 128
  deriving DecidableEq

/-- `Uuid::from_u128`. -/
def Uuid.fromU128 (bits : BitVec 128) : Uuid := ⟨bits⟩

/-- A GATT characteristic used by the Chessnut Move protocol. -/
inductive Characteristic
  | positionNotification | commandWrite | commandResponse
  deriving DecidableEq, Repr

def Characteristic.uuidU128 : Characteristic → BitVec 128
  | .positionNotification => 0x1b7e8262287741c3b46ecf057c562023
  | .commandWrite => 0x1b7e8272287741c3b46ecf057c562023
  | .commandResponse => 0x1b7e8273287741c3b46ecf057c562023

/-- No two characteristics share an identifier. -/
theorem Characteristic.uuidU128_injective {c c' : Characteristic}
    (h : c.uuidU128 = c'.uuidU128) : c = c' := by
  revert h
  cases c <;> cases c' <;> decide

/-- The GATT characteristic corresponding to a source. -/
def NotificationSource.characteristic : NotificationSource → Characteristic
  | .position => .positionNotification
  | .commandResponse => .commandResponse

/-- No two sources share an identifier. -/
theorem NotificationSource.fromU128_inj {source source' : NotificationSource} :
    Uuid.fromU128 source.characteristic.uuidU128 = Uuid.fromU128 source'.characteristic.uuidU128 ↔
      source = source' := by
  constructor
  · intro h
    have hsame := Characteristic.uuidU128_injective (congrArg Uuid.bits h)
    cases source <;> cases source' <;> first | rfl | cases hsame
  · rintro rfl
    rfl

end ChessnutMove
