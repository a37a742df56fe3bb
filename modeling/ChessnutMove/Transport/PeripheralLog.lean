import ChessnutMove.Transport.Btleplug

set_option autoImplicit false

/-! # What reaches the peripheral

A peripheral that keeps a list of the calls it gets. An adapter that `new` made carries every
exchange with its session to at most one call, addressed to the characteristic of the protocol, and
answers with what the peripheral said. -/

namespace ChessnutMove

variable {π χ ν β : Type}

/-- A call of a peripheral and how it ended. -/
inductive PeripheralCall (χ β : Type)
  | discoverServices (result : Except β Unit)
  | notifications (result : Except β Unit)
  | subscribe (characteristic : χ) (result : Except β Unit)
  | unsubscribe (characteristic : χ) (result : Except β Unit)
  | write (characteristic : χ) (data : List UInt8) (writeType : WriteType) (result : Except β Unit)
  | next (item : Option ValueNotification)
  deriving DecidableEq

/-- The peripheral that answers like `p` and keeps a list of its calls. -/
def Peripheral.recorded (p : Peripheral π χ ν β) :
    Peripheral (π × List (PeripheralCall χ β)) χ ν β where
  discoverServices state :=
    let (result, peripheral) := p.discoverServices state.1
    (result, (peripheral, state.2 ++ [.discoverServices result]))
  characteristics state := p.characteristics state.1
  uuid := p.uuid
  notifications state :=
    let (result, peripheral) := p.notifications state.1
    (result, (peripheral, state.2 ++ [.notifications (result.map fun _ => ())]))
  subscribe characteristic state :=
    let (result, peripheral) := p.subscribe characteristic state.1
    (result, (peripheral, state.2 ++ [.subscribe characteristic result]))
  unsubscribe characteristic state :=
    let (result, peripheral) := p.unsubscribe characteristic state.1
    (result, (peripheral, state.2 ++ [.unsubscribe characteristic result]))
  write characteristic data writeType state :=
    let (result, peripheral) := p.write characteristic data writeType state.1
    (result, (peripheral, state.2 ++ [.write characteristic data writeType result]))
  next stream state :=
    let (item, stream, peripheral) := p.next stream state.1
    (item, stream, (peripheral, state.2 ++ [.next item]))

/-- The adapter around a peripheral that keeps a list of its calls. -/
abbrev RecordedTransport (π χ ν β : Type) : Type :=
  BtleplugTransport (π × List (PeripheralCall χ β)) χ ν

/-- How a command is written. -/
def Command.writeType (command : Command) : WriteType :=
  match command.writeKind with
  | .withResponse => .withResponse
  | .withoutResponse => .withoutResponse

namespace BtleplugTransport

/-- The discovered characteristic that stands for one of the protocol. -/
def characteristic (transport : BtleplugTransport π χ ν) : Characteristic → χ
  | .positionNotification => transport.positionNotification
  | .commandWrite => transport.commandWrite
  | .commandResponse => transport.commandResponse

/-- What a session gets for an item of the notification stream. -/
def routed (capacity : Nat) : Option ValueNotification → Except (Btleplug.Error β) Notification
  | none => .error .notificationStreamEnded
  | some item =>
      match taggedSource item.uuid with
      | none => .error (.unexpectedNotificationCharacteristic item.uuid)
      | some source =>
          if item.value.length ≤ capacity then .ok ⟨source, item.value⟩
          else .error (.notificationTooLong item.value.length capacity)

/-- The call of the peripheral that a transport call turns into, with its result. -/
def carried (characteristic : Characteristic → χ) :
    TransportCall → Except β Unit → List (PeripheralCall χ β)
  | .subscribe source, result => [.subscribe (characteristic source.characteristic) result]
  | .unsubscribe source, result => [.unsubscribe (characteristic source.characteristic) result]
  | .writeCommand command, result =>
      [.write (characteristic .commandWrite) command.bytes command.writeType result]
  | .close, _ => []

/-- What an exchange of a session is on the peripheral. -/
inductive Carries (characteristic : Characteristic → χ) :
    Exchange (Btleplug.Error β) → List (PeripheralCall χ β) → Prop
  | performed (call : TransportCall) (result : Except β Unit)
      (hclose : call = .close → result = .ok ()) :
      Carries characteristic (.performed call (result.mapError .backend))
        (carried characteristic call result)
  | received (item : Option ValueNotification) :
      Carries characteristic (.received (routed maxNotificationLen item)) [.next item]

/-- What the exchanges of a session are on the peripheral, in the same order. -/
inductive CarriesAll (characteristic : Characteristic → χ) :
    List (Exchange (Btleplug.Error β)) → List (PeripheralCall χ β) → Prop
  | nil : CarriesAll characteristic [] []
  | snoc {exchanges : List (Exchange (Btleplug.Error β))} {exchange : Exchange (Btleplug.Error β)}
      {log calls : List (PeripheralCall χ β)} (h : CarriesAll characteristic exchanges log)
      (hlast : Carries characteristic exchange calls) :
      CarriesAll characteristic (exchanges ++ [exchange]) (log ++ calls)

section CarriesAll

variable {characteristic : Characteristic → χ}
  {exchanges before after : List (Exchange (Btleplug.Error β))} {log : List (PeripheralCall χ β)}

/-- Nothing reaches the peripheral but what an exchange carries to it. -/
theorem CarriesAll.of_mem (h : CarriesAll characteristic exchanges log)
    {call : PeripheralCall χ β} (hmem : call ∈ log) :
    ∃ exchange ∈ exchanges, ∃ calls, Carries characteristic exchange calls ∧ call ∈ calls := by
  induction h with
  | nil => cases hmem
  | snoc h hlast ih =>
      rcases List.mem_append.1 hmem with hmem | hmem
      · obtain ⟨exchange, hexchange, hcalls⟩ := ih hmem
        exact ⟨exchange, List.mem_append_left _ hexchange, hcalls⟩
      · exact ⟨_, List.mem_append_right _ (List.mem_singleton_self _), _, hlast, hmem⟩

/-- Every exchange is carried to the peripheral. -/
theorem CarriesAll.exists_of_mem (h : CarriesAll characteristic exchanges log)
    {exchange : Exchange (Btleplug.Error β)} (hmem : exchange ∈ exchanges) :
    ∃ calls, Carries characteristic exchange calls ∧ calls ⊆ log := by
  induction h with
  | nil => cases hmem
  | snoc h hlast ih =>
      rcases List.mem_append.1 hmem with hmem | hmem
      · obtain ⟨calls, hcarries, hsub⟩ := ih hmem
        exact ⟨calls, hcarries, List.subset_append_of_subset_left _ hsub⟩
      · obtain rfl := List.mem_singleton.1 hmem
        exact ⟨_, hlast, List.subset_append_right _ _⟩

theorem CarriesAll.eq_nil (h : CarriesAll characteristic [] log) : log = [] := by
  generalize heq : ([] : List (Exchange (Btleplug.Error β))) = exchanges at h
  cases h with
  | nil => rfl
  | snoc => exact absurd heq.symm (List.append_ne_nil_of_right_ne_nil _ (List.cons_ne_nil _ _))

theorem CarriesAll.snoc_inv {exchange : Exchange (Btleplug.Error β)}
    (h : CarriesAll characteristic (exchanges ++ [exchange]) log) :
    ∃ first calls, log = first ++ calls ∧ CarriesAll characteristic exchanges first ∧
      Carries characteristic exchange calls := by
  generalize heq : exchanges ++ [exchange] = all at h
  cases h with
  | nil => exact absurd heq (List.append_ne_nil_of_right_ne_nil _ (List.cons_ne_nil _ _))
  | snoc h hlast =>
      obtain ⟨rfl, hsame⟩ := List.append_inj' heq rfl
      obtain rfl := List.singleton_inj.1 hsame
      exact ⟨_, _, rfl, h, hlast⟩

/-- What is carried of later exchanges comes later. -/
theorem CarriesAll.split (h : CarriesAll characteristic exchanges log)
    (heq : exchanges = before ++ after) :
    ∃ first last, log = first ++ last ∧ CarriesAll characteristic before first ∧
      CarriesAll characteristic after last := by
  induction after using List.reverseRecOn generalizing exchanges log with
  | nil =>
      rw [List.append_nil] at heq
      exact ⟨log, [], (List.append_nil log).symm, heq ▸ h, .nil⟩
  | append_singleton after last ih =>
      rw [heq, ← List.append_assoc] at h
      obtain ⟨_, calls, rfl, hinit, hlast⟩ := h.snoc_inv
      obtain ⟨first, rest, rfl, hfirst, hrest⟩ := ih hinit rfl
      exact ⟨first, rest ++ calls, List.append_assoc _ _ _, hfirst, .snoc hrest hlast⟩

/-- If every exchange of one kind is carried to some call of another, there are as many of these. -/
theorem CarriesAll.countP_le (h : CarriesAll characteristic exchanges log)
    {ofExchange : Exchange (Btleplug.Error β) → Bool} {ofCall : PeripheralCall χ β → Bool}
    (hone : ∀ exchange calls, Carries characteristic exchange calls → ofExchange exchange = true →
      0 < calls.countP ofCall) : exchanges.countP ofExchange ≤ log.countP ofCall := by
  induction h with
  | nil => exact Nat.le_refl _
  | @snoc exchanges exchange log calls h hlast ih =>
      have hcalls := hone exchange calls hlast
      rw [List.countP_append, List.countP_append, List.countP_singleton]
      split
      · next hof =>
          have hpos := hcalls hof
          omega
      · omega

theorem outcome_of_carries {call : TransportCall} {result : Except (Btleplug.Error β) Unit}
    {calls : List (PeripheralCall χ β)}
    (h : Carries characteristic (.performed call result) calls) :
    ∃ outcome : Except β Unit, result = outcome.mapError .backend ∧
      calls = carried characteristic call outcome := by
  cases h with
  | performed _ outcome => exact ⟨outcome, rfl, rfl⟩

/-- Calls that succeed are carried to calls that succeed. -/
theorem CarriesAll.succeeding {calls : List TransportCall}
    (h : CarriesAll characteristic (calls.map fun call => .performed call (.ok ())) log) :
    log = calls.flatMap fun call => carried characteristic call (.ok ()) := by
  induction calls using List.reverseRecOn generalizing log with
  | nil => exact h.eq_nil
  | append_singleton calls call ih =>
      rw [List.map_append] at h
      obtain ⟨first, last, rfl, hfirst, hlast⟩ := h.snoc_inv
      obtain ⟨outcome, hresult, rfl⟩ := outcome_of_carries hlast
      obtain rfl : outcome = .ok () := Except.mapError_eq_ok_iff.1 hresult.symm
      rw [ih hfirst, List.flatMap_append, List.flatMap_singleton]

end CarriesAll

/-! ## The adapter -/

section Adapter

variable {p : Peripheral π χ ν β}

/-- The characteristics of an adapter that `new` made have the identifiers of the protocol. -/
theorem uuid_characteristic {peripheral : π} {transport : BtleplugTransport π χ ν}
    (h : new p peripheral = .ok transport) (c : Characteristic) :
    p.uuid (transport.characteristic c) = Uuid.fromU128 c.uuidU128 := by
  simp only [new, Except.bind_eq_ok_iff] at h
  obtain ⟨-, -, commandWrite, hwrite, positionNotification, hposition, commandResponse, hresponse,
    notifications, -, hreturn⟩ := h
  obtain rfl := Except.ok.inj hreturn
  cases c with
  | positionNotification => exact uuid_of_find hposition
  | commandWrite => exact uuid_of_find hwrite
  | commandResponse => exact uuid_of_find hresponse

/-- `new` discovers the services and opens the notification stream, and calls nothing else. -/
theorem recorded_of_new {peripheral : π} {transport : RecordedTransport π χ ν β}
    (h : new p.recorded (peripheral, []) = .ok transport) :
    transport.peripheral.2 = [.discoverServices (.ok ()), .notifications (.ok ())] := by
  simp only [new, Except.bind_eq_ok_iff] at h
  obtain ⟨_, hdiscovered, commandWrite, -, positionNotification, -, commandResponse, -,
    notifications, hstream, hreturn⟩ := h
  obtain rfl := Except.ok.inj hreturn
  have hservices : (p.discoverServices peripheral).1 = .ok () :=
    Except.mapError_eq_ok_iff.1 hdiscovered
  have hopened : (p.notifications (p.discoverServices peripheral).2).1 = .ok notifications :=
    Except.mapError_eq_ok_iff.1 hstream
  show [PeripheralCall.discoverServices (p.discoverServices peripheral).1,
    .notifications ((p.notifications (p.discoverServices peripheral).2).1.map fun _ => ())] = _
  rw [hservices, hopened]
  rfl

/-- What `receive` returns depends on the item of the stream and the length of the buffer. -/
theorem receive_eq {n : Nat} (transport : BtleplugTransport π χ ν) (buffer : Vector UInt8 n) :
    (transport.receive p buffer).1
        = routed n (p.next transport.notifications transport.peripheral).1 ∧
      (transport.receive p buffer).2.1
        = transport.later (p.next transport.notifications transport.peripheral).2.2
            (p.next transport.notifications transport.peripheral).2.1 := by
  rcases hnext : p.next transport.notifications transport.peripheral with
    ⟨_ | item, notifications, peripheral⟩
  · simp only [receive, hnext, routed, later, and_self]
  · cases htag : taggedSource item.uuid with
    | none =>
        rw [receive_of_unknown hnext htag]
        simp only [routed, htag, and_self]
    | some source =>
        rw [receive_of_known hnext htag]
        simp only [routed, htag]
        split <;> exact ⟨rfl, rfl⟩

variable (board : BoardState (RecordedTransport π χ ν β))

theorem characteristic_notificationCharacteristic (transport : BtleplugTransport π χ ν)
    (source : NotificationSource) :
    transport.notificationCharacteristic source
      = transport.characteristic source.characteristic := by
  cases source <;> rfl

/-- A transport call reaches the peripheral as one call, or as none if it closes. -/
theorem perform_carries (p : Peripheral π χ ν β) (call : TransportCall) :
    ∃ calls, Carries board.transport.characteristic
        (.performed call (board.perform (asyncTransport p.recorded) call).1) calls ∧
      (board.perform (asyncTransport p.recorded) call).2.transport.peripheral.2
        = board.transport.peripheral.2 ++ calls ∧
      (board.perform (asyncTransport p.recorded) call).2.transport.characteristic
        = board.transport.characteristic := by
  cases call with
  | subscribe source =>
      refine ⟨_, .performed (.subscribe source) (p.subscribe _ board.transport.peripheral.1).1
        (by simp), ?_, rfl⟩
      rw [carried, ← characteristic_notificationCharacteristic]
      rfl
  | unsubscribe source =>
      refine ⟨_, .performed (.unsubscribe source) (p.unsubscribe _ board.transport.peripheral.1).1
        (by simp), ?_, rfl⟩
      rw [carried, ← characteristic_notificationCharacteristic]
      rfl
  | writeCommand command =>
      exact ⟨_, .performed (.writeCommand command) (p.write _ _ _ board.transport.peripheral.1).1
        (by simp), rfl, rfl⟩
  | close => exact ⟨[], .performed .close (.ok ()) (fun _ => rfl), (List.append_nil _).symm, rfl⟩

/-- A notification is one item of the stream. -/
theorem receive_carries (p : Peripheral π χ ν β) :
    ∃ item, (board.receive (asyncTransport p.recorded)).1 = routed maxNotificationLen item ∧
      (board.receive (asyncTransport p.recorded)).2.transport.peripheral.2
        = board.transport.peripheral.2 ++ [.next item] ∧
      (board.receive (asyncTransport p.recorded)).2.transport.characteristic
        = board.transport.characteristic := by
  obtain ⟨hresult, hlater⟩ :=
    receive_eq (p := p.recorded) board.transport board.notificationBuffer
  refine ⟨_, hresult, ?_, ?_⟩
  · exact congrArg (fun transport => transport.peripheral.2) hlater
  · exact (congrArg characteristic hlater).trans rfl

end Adapter

end BtleplugTransport

end ChessnutMove
