import ChessnutMove.Transport.Gatt
import ChessnutMove.Transport.Recording

set_option autoImplicit false

/-! # The btleplug adapter

`BtleplugTransport` of `transport/btleplug.rs`. The peripheral is code of another library:
`Peripheral` is what the adapter calls of it, as functions of a state that the peripheral and its
notification stream share. Every call may fail with an error of the backend, and a stream yields
whatever items it yields. -/

namespace ChessnutMove

/-! ## The peripheral -/

/-- An item of a peripheral's notification stream. -/
structure ValueNotification where
  uuid : Uuid
  value : List UInt8
  deriving DecidableEq

/-- How a characteristic is written. -/
inductive WriteType
  | withResponse | withoutResponse
  deriving DecidableEq

/-- What the adapter uses of a peripheral: states `π`, characteristics `χ`, notification streams `ν`
    and errors `β`. -/
structure Peripheral (π χ ν β : Type) where
  discoverServices : π → Except β Unit × π
  /-- The discovered characteristics, in the order of iteration. -/
  characteristics : π → List χ
  uuid : χ → Uuid
  notifications : π → Except β ν × π
  subscribe : χ → π → Except β Unit × π
  unsubscribe : χ → π → Except β Unit × π
  write : χ → List UInt8 → WriteType → π → Except β Unit × π
  /-- The next item of a stream, `none` at its end. -/
  next : ν → π → Option ValueNotification × ν × π

/-! ## The adapter -/

namespace Btleplug

/-- Errors from the adapter. -/
inductive Error (β : Type)
  | backend (error : β)
  | missingCharacteristic (characteristic : Characteristic)
  | notificationStreamEnded
  | notificationTooLong (actual capacity : Nat)
  | unexpectedNotificationCharacteristic (uuid : Uuid)
  deriving DecidableEq

end Btleplug

/-- An adapter around a connected peripheral. -/
structure BtleplugTransport (π χ ν : Type) where
  peripheral : π
  commandWrite : χ
  positionNotification : χ
  commandResponse : χ
  notifications : ν

variable {π χ ν β : Type}

namespace BtleplugTransport

/-- The discovered characteristic with the identifier of one of the protocol. -/
def find (p : Peripheral π χ ν β) (characteristics : List χ) (characteristic : Characteristic) :
    Except (Btleplug.Error β) χ :=
  match characteristics.find? fun candidate =>
      p.uuid candidate = Uuid.fromU128 characteristic.uuidU128 with
  | some found => .ok found
  | none => .error (.missingCharacteristic characteristic)

/-- Creates an adapter around an already connected peripheral. -/
def new (p : Peripheral π χ ν β) (peripheral : π) :
    Except (Btleplug.Error β) (BtleplugTransport π χ ν) := do
  let (discovered, peripheral) := p.discoverServices peripheral
  discovered.mapError Btleplug.Error.backend
  let characteristics := p.characteristics peripheral
  let commandWrite ← find p characteristics .commandWrite
  let positionNotification ← find p characteristics .positionNotification
  let commandResponse ← find p characteristics .commandResponse
  let (stream, peripheral) := p.notifications peripheral
  let notifications ← stream.mapError Btleplug.Error.backend
  return { peripheral, commandWrite, positionNotification, commandResponse, notifications }

/-- Maps a protocol notification source to its discovered characteristic. -/
def notificationCharacteristic (transport : BtleplugTransport π χ ν) : NotificationSource → χ
  | .position => transport.positionNotification
  | .commandResponse => transport.commandResponse

/-- Enables a discovered notification characteristic. -/
def subscribeSource (p : Peripheral π χ ν β) (source : NotificationSource)
    (transport : BtleplugTransport π χ ν) :
    Except (Btleplug.Error β) Unit × BtleplugTransport π χ ν :=
  let (result, peripheral) :=
    p.subscribe (transport.notificationCharacteristic source) transport.peripheral
  (result.mapError .backend, { transport with peripheral })

/-- Disables a discovered notification characteristic. -/
def unsubscribeSource (p : Peripheral π χ ν β) (source : NotificationSource)
    (transport : BtleplugTransport π χ ν) :
    Except (Btleplug.Error β) Unit × BtleplugTransport π χ ν :=
  let (result, peripheral) :=
    p.unsubscribe (transport.notificationCharacteristic source) transport.peripheral
  (result.mapError .backend, { transport with peripheral })

/-- Maps the protocol write kind and submits a command to the write characteristic. -/
def write (p : Peripheral π χ ν β) (command : Command) (transport : BtleplugTransport π χ ν) :
    Except (Btleplug.Error β) Unit × BtleplugTransport π χ ν :=
  let writeType := match command.writeKind with
    | .withResponse => WriteType.withResponse
    | .withoutResponse => WriteType.withoutResponse
  let (result, peripheral) :=
    p.write transport.commandWrite command.bytes writeType transport.peripheral
  (result.mapError .backend, { transport with peripheral })

/-- `buffer[..value.len()].copy_from_slice(value)`, for a value that fits. -/
def copyFromSlice {n : Nat} (buffer : Vector UInt8 n) (value : List UInt8) : Vector UInt8 n :=
  Vector.ofFn fun index => value[index]?.getD (buffer.get index)

/-- Copies and tags one value from the peripheral-wide notification stream. -/
def receive {n : Nat} (p : Peripheral π χ ν β) (transport : BtleplugTransport π χ ν)
    (buffer : Vector UInt8 n) :
    Except (Btleplug.Error β) Notification × BtleplugTransport π χ ν × Vector UInt8 n :=
  let (item, notifications, peripheral) := p.next transport.notifications transport.peripheral
  let transport := { transport with notifications, peripheral }
  match item with
  | none => (.error .notificationStreamEnded, transport, buffer)
  | some notification =>
      let tagged :=
        if notification.uuid = Uuid.fromU128 Characteristic.positionNotification.uuidU128 then
          some NotificationSource.position
        else if notification.uuid = Uuid.fromU128 Characteristic.commandResponse.uuidU128 then
          some .commandResponse
        else none
      match tagged with
      | none =>
          (.error (.unexpectedNotificationCharacteristic notification.uuid), transport, buffer)
      | some source =>
          let actual := notification.value.length
          if actual > n then
            (.error (.notificationTooLong actual n), transport, buffer)
          else
            let buffer := copyFromSlice buffer notification.value
            (.ok ⟨source, buffer.toList.take actual⟩, transport, buffer)

/-- The adapter as a session's transport. Closing is the operation that does nothing. -/
def asyncTransport (p : Peripheral π χ ν β) :
    Transport (BtleplugTransport π χ ν) (Btleplug.Error β) where
  perform
    | .subscribe source, transport => subscribeSource p source transport
    | .unsubscribe source, transport => unsubscribeSource p source transport
    | .writeCommand command, transport => write p command transport
    | .close, transport => (.ok (), transport)
  nextNotification := receive p

/-! ## Construction -/

section New

variable {p : Peripheral π χ ν β}

theorem uuid_of_find {characteristics : List χ} {characteristic : Characteristic} {found : χ}
    (h : find p characteristics characteristic = .ok found) :
    p.uuid found = Uuid.fromU128 characteristic.uuidU128 := by
  unfold find at h
  split at h
  · next candidate hfind =>
      obtain rfl := Except.ok.inj h
      simpa using List.find?_some hfind
  · cases h

/-- The notification characteristics of an adapter have the identifiers of the protocol. -/
theorem uuid_notificationCharacteristic {peripheral : π} {transport : BtleplugTransport π χ ν}
    (h : new p peripheral = .ok transport) (source : NotificationSource) :
    p.uuid (transport.notificationCharacteristic source)
      = Uuid.fromU128 source.characteristic.uuidU128 := by
  simp only [new, Except.bind_eq_ok_iff] at h
  obtain ⟨-, -, commandWrite, -, positionNotification, hposition, commandResponse, hresponse,
    notifications, -, hreturn⟩ := h
  obtain rfl := Except.ok.inj hreturn
  cases source with
  | position => exact uuid_of_find hposition
  | commandResponse => exact uuid_of_find hresponse

end New

/-! ## Receiving -/

section Receive

variable (p : Peripheral π χ ν β)

/-- What one item of the stream is turned into, when `enabled` are the characteristics of the two
    sources and the buffer has this capacity. -/
structure Routed (enabled : NotificationSource → χ) (capacity : Nat) (item : ValueNotification)
    (result : Except (Btleplug.Error β) Notification) : Prop where
  known : ∀ source, item.uuid = p.uuid (enabled source) →
    result = if item.value.length ≤ capacity then .ok ⟨source, item.value⟩
      else .error (.notificationTooLong item.value.length capacity)
  unknown : (∀ source, item.uuid ≠ p.uuid (enabled source)) →
    result = .error (.unexpectedNotificationCharacteristic item.uuid)

theorem take_copyFromSlice {n : Nat} (buffer : Vector UInt8 n) {value : List UInt8}
    (h : value.length ≤ n) : (copyFromSlice buffer value).toList.take value.length = value := by
  refine List.ext_getElem (by simp [h]) fun i hi hvalue => ?_
  simp [copyFromSlice, hvalue]

/-- The adapter with other states of its peripheral and its stream. -/
def later (transport : BtleplugTransport π χ ν) (peripheral : π) (notifications : ν) :
    BtleplugTransport π χ ν :=
  { transport with peripheral, notifications }

/-- The source a UUID is tagged with. -/
def taggedSource (uuid : Uuid) : Option NotificationSource :=
  if uuid = Uuid.fromU128 Characteristic.positionNotification.uuidU128 then some .position
  else if uuid = Uuid.fromU128 Characteristic.commandResponse.uuidU128 then some .commandResponse
  else none

theorem taggedSource_eq_some_iff {uuid : Uuid} {source : NotificationSource} :
    taggedSource uuid = some source ↔ uuid = Uuid.fromU128 source.characteristic.uuidU128 := by
  unfold taggedSource
  split
  · next hposition =>
      subst hposition
      rw [Option.some.injEq]
      exact NotificationSource.fromU128_inj.symm
  · next hposition =>
      split
      · next hresponse =>
          subst hresponse
          rw [Option.some.injEq]
          exact NotificationSource.fromU128_inj.symm
      · next hresponse =>
          cases source with
          | position => exact iff_of_false (by simp) hposition
          | commandResponse => exact iff_of_false (by simp) hresponse

variable {p} {n : Nat} {transport : BtleplugTransport π χ ν} {buffer : Vector UInt8 n}
  {item : ValueNotification} {notifications : ν} {peripheral : π}

/-- A `receive` call whose item has an unexpected UUID. -/
theorem receive_of_unknown
    (hnext : p.next transport.notifications transport.peripheral
      = (some item, notifications, peripheral)) (htag : taggedSource item.uuid = none) :
    transport.receive p buffer
      = (.error (.unexpectedNotificationCharacteristic item.uuid),
          transport.later peripheral notifications, buffer) := by
  unfold taggedSource at htag
  simp only [receive, hnext, htag]
  rfl

theorem receive_of_known {source : NotificationSource}
    (hnext : p.next transport.notifications transport.peripheral
      = (some item, notifications, peripheral)) (htag : taggedSource item.uuid = some source) :
    transport.receive p buffer
      = if item.value.length ≤ n then
          (.ok ⟨source, item.value⟩, transport.later peripheral notifications,
            copyFromSlice buffer item.value)
        else
          (.error (.notificationTooLong item.value.length n),
            transport.later peripheral notifications, buffer) := by
  unfold taggedSource at htag
  simp only [receive, hnext, htag]
  by_cases hfits : item.value.length ≤ n
  · rw [if_neg (by omega), if_pos hfits, take_copyFromSlice buffer hfits]
    rfl
  · rw [if_pos (by omega), if_neg hfits]
    rfl

/-- **One `receive` call** consumes one item, routes it, and leaves the buffer alone unless it
    returns the item's value. -/
theorem receive_routes {enabled : NotificationSource → χ}
    (henabled : ∀ source, p.uuid (enabled source) = Uuid.fromU128 source.characteristic.uuidU128)
    (hnext : p.next transport.notifications transport.peripheral
      = (some item, notifications, peripheral)) :
    ∃ result buffer', transport.receive p buffer
        = (result, transport.later peripheral notifications, buffer') ∧
      Routed p enabled n item result ∧ (∀ error, result = .error error → buffer' = buffer) := by
  cases htag : taggedSource item.uuid with
  | none =>
      refine ⟨_, _, receive_of_unknown hnext htag, ⟨fun source hsource => ?_, fun _ => rfl⟩,
        fun _ _ => rfl⟩
      have hknown := taggedSource_eq_some_iff.2 (hsource.trans (henabled source))
      rw [htag] at hknown
      cases hknown
  | some source =>
      have huuid := taggedSource_eq_some_iff.1 htag
      have hsource : ∀ source', item.uuid = p.uuid (enabled source') → source' = source := by
        intro source' h
        have hother := taggedSource_eq_some_iff.2 (h.trans (henabled source'))
        exact Option.some.inj (hother.symm.trans htag)
      have hreceive := @receive_of_known _ _ _ _ _ _ _ buffer _ _ _ _ hnext htag
      by_cases hfits : item.value.length ≤ n
      · rw [if_pos hfits] at hreceive
        refine ⟨_, _, hreceive, ⟨fun source' h => ?_, fun h => ?_⟩, fun _ h => nomatch h⟩
        · rw [if_pos hfits, hsource source' h]
        · exact absurd (huuid.trans (henabled source).symm) (h source)
      · rw [if_neg hfits] at hreceive
        refine ⟨_, _, hreceive, ⟨fun source' h => ?_, fun h => ?_⟩, fun _ _ => rfl⟩
        · rw [if_neg hfits]
        · exact absurd (huuid.trans (henabled source).symm) (h source)

/-- The stream yields these items, in this order. -/
def Yields (p : Peripheral π χ ν β) : List ValueNotification → ν → π → Prop
  | [], _, _ => True
  | item :: items, notifications, peripheral =>
      ∃ notifications' peripheral',
        p.next notifications peripheral = (some item, notifications', peripheral') ∧
          Yields p items notifications' peripheral'

/-- Successive `receive` calls on one buffer consume one of the items each, route it, and leave the
    buffer alone when they fail. -/
def ReceivesInTurn (p : Peripheral π χ ν β) (enabled : NotificationSource → χ) {n : Nat} :
    List ValueNotification → BtleplugTransport π χ ν → Vector UInt8 n → Prop
  | [], _, _ => True
  | item :: items, transport, buffer =>
      ∃ result notifications peripheral buffer',
        p.next transport.notifications transport.peripheral
            = (some item, notifications, peripheral) ∧
          transport.receive p buffer
            = (result, transport.later peripheral notifications, buffer') ∧
          Routed p enabled n item result ∧ (∀ error, result = .error error → buffer' = buffer) ∧
          ReceivesInTurn p enabled items (transport.later peripheral notifications) buffer'

theorem receives_in_turn {enabled : NotificationSource → χ}
    (henabled : ∀ source, p.uuid (enabled source) = Uuid.fromU128 source.characteristic.uuidU128)
    {items : List ValueNotification}
    (h : Yields p items transport.notifications transport.peripheral) :
    ReceivesInTurn p enabled items transport buffer := by
  induction items generalizing transport buffer with
  | nil => trivial
  | cons item items ih =>
      obtain ⟨notifications', peripheral', hnext, hrest⟩ := h
      obtain ⟨result, buffer', hreceive, hrouted, hbuffer⟩ :=
        @receive_routes _ _ _ _ _ _ _ buffer _ _ _ _ henabled hnext
      exact ⟨result, notifications', peripheral', buffer', hnext, hreceive, hrouted, hbuffer,
        ih hrest⟩

/-- What `receive` returns, and what becomes of the adapter, does not depend on the buffer. -/
theorem receive_ignores_buffer (transport : BtleplugTransport π χ ν)
    (buffer buffer' : Vector UInt8 n) :
    (transport.receive p buffer).1 = (transport.receive p buffer').1 ∧
      (transport.receive p buffer).2.1 = (transport.receive p buffer').2.1 := by
  rcases hnext : p.next transport.notifications transport.peripheral with
    ⟨_ | item, notifications, peripheral⟩
  · simp only [receive, hnext, and_self]
  · cases htag : taggedSource item.uuid with
    | none =>
        rw [receive_of_unknown hnext htag, receive_of_unknown hnext htag]
        exact ⟨rfl, rfl⟩
    | some source =>
        rw [receive_of_known hnext htag, receive_of_known hnext htag]
        split <;> exact ⟨rfl, rfl⟩

/-- Sessions over the adapter that differ in their buffers cannot be told apart. -/
theorem asyncTransport_simulates (p : Peripheral π χ ν β) :
    Simulates (asyncTransport p) (asyncTransport p)
      fun board board' => board.transport = board'.transport where
  perform := by
    rintro ⟨transport, buffer⟩ ⟨_, buffer'⟩ rfl call
    exact ⟨rfl, rfl⟩
  receive := by
    rintro ⟨transport, buffer⟩ ⟨_, buffer'⟩ rfl
    exact receive_ignores_buffer transport buffer buffer'

end Receive

/-- **The adapter routes and copies notifications faithfully**, whatever the buffer held. With an
    adapter from `new`, at any later state of the peripheral and the stream: there is one
    characteristic that subscribing to a source enables; successive `receive` calls turn the items
    of the stream, one each, into the values of these two characteristics, or an error for any other
    item; and the results of every sequence of session operations are the same for all buffers. -/
theorem btleplug_faithful (p : Peripheral π χ ν β) (peripheral : π)
    (transport : BtleplugTransport π χ ν) (hnew : new p peripheral = .ok transport) :
    (∃ enabled : NotificationSource → χ,
      (∀ source peripheral notifications,
        (asyncTransport p).perform (.subscribe source) (transport.later peripheral notifications)
          = ((p.subscribe (enabled source) peripheral).1.mapError .backend,
              transport.later (p.subscribe (enabled source) peripheral).2 notifications)) ∧
      ∀ peripheral notifications items, Yields p items notifications peripheral →
        ∀ n (buffer : Vector UInt8 n),
          ReceivesInTurn p enabled items (transport.later peripheral notifications) buffer) ∧
    ∀ peripheral notifications buffer buffer' fuel calls,
      Option.Rel (Lockstep fun board board' => board.transport = board'.transport)
        (AsyncBoard.run (asyncTransport p) fuel calls
          ⟨transport.later peripheral notifications, buffer⟩)
        (AsyncBoard.run (asyncTransport p) fuel calls
          ⟨transport.later peripheral notifications, buffer'⟩) := by
  refine ⟨⟨transport.notificationCharacteristic, fun source _ _ => ?_, ?_⟩, ?_⟩
  · cases source <;> rfl
  · intro peripheral notifications items hitems n buffer
    exact receives_in_turn (uuid_notificationCharacteristic hnew) hitems
  · intro peripheral notifications buffer buffer' fuel calls
    exact AsyncBoard.run_simulates (asyncTransport_simulates p) (by rfl) fuel calls

/-- A peripheral with the protocol's three characteristics, known by their identifiers, whose stream
    is a list. -/
def listPeripheral : Peripheral Unit Uuid (List ValueNotification) Unit where
  discoverServices _ := (.ok (), ())
  characteristics _ :=
    [.fromU128 Characteristic.commandResponse.uuidU128,
      .fromU128 Characteristic.positionNotification.uuidU128,
      .fromU128 Characteristic.commandWrite.uuidU128]
  uuid := id
  notifications _ := (.ok [], ())
  subscribe _ _ := (.ok (), ())
  unsubscribe _ _ := (.ok (), ())
  write _ _ _ _ := (.ok (), ())
  next
    | [], _ => (none, [], ())
    | item :: items, _ => (some item, items, ())

/-- A value that fits, one that does not, and one of another characteristic. -/
def listItems : List ValueNotification :=
  [⟨.fromU128 Characteristic.commandResponse.uuidU128, [0x23]⟩,
    ⟨.fromU128 Characteristic.positionNotification.uuidU128, [1, 2, 3, 4]⟩, ⟨⟨0⟩, [5]⟩]

theorem listPeripheral_faithful :
    ∃ transport enabled, new listPeripheral () = .ok transport ∧
      ReceivesInTurn listPeripheral enabled listItems (transport.later () listItems)
        (#v[7, 7, 7] : Vector UInt8 3) := by
  have hnew : new listPeripheral () = .ok _ := rfl
  obtain ⟨⟨enabled, -, hreceives⟩, -⟩ := btleplug_faithful listPeripheral () _ hnew
  exact ⟨_, enabled, hnew, hreceives () listItems listItems
    ⟨_, _, rfl, _, _, rfl, _, _, rfl, trivial⟩ 3 _⟩

end BtleplugTransport

end ChessnutMove
