import ChessnutMove.Tokio.OnTransport
import ChessnutMove.Tokio.Streams
import ChessnutMove.Transport.PeripheralLog
import Mathlib.Data.List.Perm.Subperm

set_option autoImplicit false

/-! # From a handle to the peripheral

The system on the Bluetooth adapter. What a caller is told, and what a subscriber receives, is
traced back to the calls that the peripheral got, whatever else was under way. -/

namespace ChessnutMove

variable {π χ ν β : Type}

/-- The item is a notification that reports the event. -/
def ValueNotification.Reports (item : ValueNotification) (event : BoardEvent) : Prop :=
  ∃ source : NotificationSource, item.uuid = Uuid.fromU128 source.characteristic.uuidU128 ∧
    item.value.length ≤ maxNotificationLen ∧
      decodeNotification ⟨source, item.value⟩ = .ok (.event event)

/-- The call ended well. -/
def PeripheralCall.isOk : PeripheralCall χ β → Bool
  | .discoverServices result | .notifications result => result.isOk
  | .subscribe _ result | .unsubscribe _ result | .write _ _ _ result => result.isOk
  | .next item => item.isSome

/-- The call is a successful write of the command to the characteristic for commands. -/
def PeripheralCall.wrote (uuid : χ → Uuid) (command : Command) : PeripheralCall χ β → Bool
  | .write characteristic data writeType (.ok ()) =>
      decide (uuid characteristic = Uuid.fromU128 Characteristic.commandWrite.uuidU128 ∧
        data = command.bytes ∧ writeType = command.writeType)
  | _ => false

/-- The exchange is a successful write of the command. -/
def Exchange.wrote {ε : Type} (command : Command) : Exchange ε → Bool
  | .performed call (.ok ()) => decide (call = .writeCommand command)
  | _ => false

namespace Tokio

variable {ε : Type}

/-- The caller was told that its command was written. -/
def Call.hasSent (command : Command) (call : Call) : Bool :=
  match call.stage with
  | .completed _ (.ok .done) => decide (call.request = .send command)
  | _ => false

namespace Runtime

section Calls

variable {config : ActorConfig} {s : Runtime ε}

/-- Calls have different oneshots. -/
theorem nodup_replies (hs : Issued s) : (s.calls.filterMap fun call => call.stage.reply).Nodup := by
  rw [List.Nodup, List.pairwise_filterMap, List.pairwise_iff_getElem]
  intro i k hi hk hlt reply hreply reply' hreply' heq
  obtain rfl := heq
  have hsame := hs.unique i k reply ⟨_, List.getElem?_eq_getElem hi, hreply⟩
    ⟨_, List.getElem?_eq_getElem hk, hreply'⟩
  omega

/-- An `Ok` is what the actor replied to the message of the call. -/
theorem gives_of_ok (h : Reachable config s) {call : Call} (hmem : call ∈ s.calls)
    {reply : Option ReplyId} {value : ReplyValue}
    (hstage : call.stage = .completed reply (.ok value)) :
    ∃ r, reply = some r ∧ s.actor.Gives (call.request.message r) (.ok value) := by
  cases explained h call hmem reply _ hstage with
  | answered r _ hreplied =>
      have hreply : call.stage.reply = some r := by rw [hstage]; rfl
      exact ⟨r, rfl, gives_of_replied h hmem hreply hreplied⟩

/-- Behind an `Ok` of `send` is the write that was made for it. -/
theorem written_of_hasSent (h : Reachable config s) {command : Command} {call : Call}
    (hmem : call ∈ s.calls) (hsent : call.hasSent command = true) :
    ∃ reply, call.stage.reply = some reply ∧
      .returned (.writeCommand command) (some (.send command reply)) (.ok ())
        ∈ s.actor.events := by
  unfold Call.hasSent at hsent
  split at hsent
  · next reply hstage =>
      have hrequest := of_decide_eq_true hsent
      obtain ⟨reply, rfl, hgives⟩ := gives_of_ok h hmem hstage
      rw [hrequest] at hgives
      cases hgives with
      | sent command reply hwrite => exact ⟨reply, by rw [hstage]; rfl, hwrite⟩
  · cases hsent

/-- For every caller that was told so, its command was written once more. -/
theorem countP_hasSent_le (h : Reachable config s) (command : Command) :
    s.calls.countP (Call.hasSent command) ≤ s.actor.exchanges.countP (Exchange.wrote command) := by
  let replies := (s.calls.filter (Call.hasSent command)).filterMap fun call => call.stage.reply
  let writes := replies.map fun reply =>
    (.returned (.writeCommand command) (some (.send command reply)) (.ok ()) : Event ε)
  have hwrites : writes ⊆ s.actor.events := by
    intro event hevent
    obtain ⟨reply, hreply, rfl⟩ := List.mem_map.1 hevent
    obtain ⟨call, hcall, hstage⟩ := List.mem_filterMap.1 hreply
    obtain ⟨hmem, hsent⟩ := List.mem_filter.1 hcall
    obtain ⟨reply', hreply', hwrite⟩ := written_of_hasSent h hmem hsent
    obtain rfl := Option.some.inj (hstage.symm.trans hreply')
    exact hwrite
  have hnodup : writes.Nodup := by
    refine List.Nodup.map ?_ ((nodup_replies (issued h)).sublist ?_)
    · intro reply reply' heq
      cases heq
      rfl
    · exact List.Sublist.filterMap _ List.filter_sublist
  have hreplies : replies.length = (s.calls.filter (Call.hasSent command)).length := by
    rw [List.length_filterMap_eq_countP, List.countP_eq_length]
    intro call hcall
    obtain ⟨hmem, hsent⟩ := List.mem_filter.1 hcall
    obtain ⟨reply, hreply, -⟩ := written_of_hasSent h hmem hsent
    rw [hreply]
    rfl
  let wrote := fun event : Event ε => (event.exchange.map (Exchange.wrote command)).getD false
  have hwrote : writes.countP wrote = writes.length := by
    refine List.countP_eq_length.2 fun event hevent => ?_
    obtain ⟨reply, -, rfl⟩ := List.mem_map.1 hevent
    exact decide_eq_true rfl
  calc s.calls.countP (Call.hasSent command)
      = replies.length := by rw [List.countP_eq_length_filter, hreplies]
    _ = writes.countP wrote := by rw [hwrote, List.length_map]
    _ ≤ s.actor.events.countP wrote := (List.subperm_of_subset hnodup hwrites).countP_le wrote
    _ = s.actor.exchanges.countP (Exchange.wrote command) := List.countP_filterMap.symm

/-- A status that a caller was given was published. -/
theorem published_of_status (h : Reachable config s) {call : Call} (hmem : call ∈ s.calls)
    {reply : Option ReplyId} {event : BoardEvent} {value : ReplyValue}
    (hvalue : ∀ query event', QueryRequest.answer query event' = some value → event' = event)
    (hstatus : ∃ query, QueryRequest.answer query event = some value)
    (hstage : call.stage = .completed reply (.ok value)) : .ok event ∈ s.actor.eventTx := by
  obtain ⟨r, -, hgives⟩ := gives_of_ok h hmem hstage
  obtain ⟨query, hquery⟩ := hstatus
  obtain ⟨query', event', hanswer, hpublished⟩ := hgives.published
    (by rintro rfl; cases query <;> cases event <;> cases hquery)
    (by rintro stream rfl; cases query <;> cases event <;> cases hquery)
  obtain rfl := hvalue query' event' hanswer
  rw [← Actor.published_of_reachable h.actor]
  exact List.mem_filterMap.2 ⟨_, hpublished, rfl⟩

/-- An event that a subscriber was given was published. -/
theorem published_of_result (h : Reachable config s) {reader : Reader} (hmem : reader ∈ s.streams)
    {event : BoardEvent} (hresult : .ok event ∈ reader.results) : .ok event ∈ s.actor.eventTx := by
  obtain ⟨item, hitem, hrecv⟩ := List.mem_map.1 hresult
  have hvalue : .ok event ∈ reader.values := by
    refine List.mem_filterMap.2 ⟨item, hitem, ?_⟩
    unfold EventStream.recv EventStream.pollNext at hrecv
    split at hrecv <;> cases hrecv
    rfl
  have hpassed := (follows h reader hmem).covers.sublist.subset hvalue
  exact List.mem_of_mem_take (List.mem_of_mem_drop hpassed)

/-- What was published is what some notification reports. -/
theorem exists_notification {s : Actor ε} (h : Actor.Reachable config s) {event : BoardEvent}
    (hmem : .ok event ∈ s.eventTx) :
    ∃ notification, .received (.ok notification) ∈ s.exchanges ∧
      decodeNotification notification = .ok (.event event) := by
  rw [observed_of_reachable h] at hmem
  obtain ⟨notification, hnotification, hobserve⟩ := List.mem_filterMap.1 hmem
  obtain ⟨cause, hcause, hbrings⟩ := List.mem_filterMap.1 hnotification
  refine ⟨notification, List.mem_filterMap.2 ⟨cause, hcause, ?_⟩, ?_⟩
  · unfold Event.notification at hbrings
    split at hbrings
    · cases hbrings
      rfl
    · cases hbrings
  · unfold observe at hobserve
    split at hobserve
    · next hdecode =>
        cases hobserve
        exact hdecode
    · cases hobserve
    · cases hobserve

/-- Behind an `Ok` of `shutdown` the last exchanges are those of the whole cleanup. -/
theorem exchanges_of_returned (h : Reachable config s) (hret : s.actor.phase = .returned)
    (herrors : ∀ event ∈ s.actor.events, event.transportError = none) :
    ∃ before, s.actor.exchanges = before ++ [.performed (.unsubscribe .commandResponse) (.ok ()),
      .performed (.unsubscribe .position) (.ok ()), .performed .close (.ok ())] := by
  obtain ⟨before, htrace⟩ := cleaned_up_of_returned h hret herrors
  refine ⟨before.filterMap Event.exchange, ?_⟩
  rw [Actor.exchanges_eq_trace, htrace, List.append_assoc, List.filterMap_append]
  rfl

end Calls

/-! ## From exchanges to the peripheral -/

section Peripheral

open BtleplugTransport

variable {characteristic : Characteristic → χ} {uuid : χ → Uuid}
  {exchanges : List (Exchange (Btleplug.Error β))} {session : List (PeripheralCall χ β)}

/-- The characteristics of the peripheral that stand for those of the protocol. -/
def Addresses (uuid : χ → Uuid) (characteristic : Characteristic → χ) : Prop :=
  ∀ c, uuid (characteristic c) = Uuid.fromU128 c.uuidU128

theorem wrote_of_carries (haddresses : Addresses uuid characteristic) {command : Command}
    {exchange : Exchange (Btleplug.Error β)} {calls : List (PeripheralCall χ β)}
    (h : Carries characteristic exchange calls) (hwrote : exchange.wrote command = true) :
    0 < calls.countP (PeripheralCall.wrote uuid command) := by
  unfold Exchange.wrote at hwrote
  split at hwrote
  · next call =>
      obtain rfl := of_decide_eq_true hwrote
      obtain ⟨outcome, hresult, rfl⟩ := outcome_of_carries h
      cases outcome with
      | error error => cases hresult
      | ok _ =>
          refine List.countP_pos_iff.2 ⟨_, List.mem_singleton_self _, ?_⟩
          exact decide_eq_true ⟨haddresses .commandWrite, rfl, rfl⟩
  · cases hwrote

theorem reports_of_routed {item : Option ValueNotification} {notification : Notification}
    {event : BoardEvent}
    (h : (routed maxNotificationLen item : Except (Btleplug.Error β) Notification)
      = .ok notification)
    (hdecode : decodeNotification notification = .ok (.event event)) :
    ∃ value, item = some value ∧ value.Reports event := by
  unfold routed at h
  split at h
  · cases h
  · next value =>
      split at h
      · cases h
      · next source htag =>
          split at h
          · next hfits =>
              cases h
              exact ⟨value, rfl, source, taggedSource_eq_some_iff.1 htag, hfits, hdecode⟩
          · cases h

/-- An exchange without an error is carried to calls that end well. -/
theorem isOk_of_carries {exchange : Exchange (Btleplug.Error β)}
    {calls : List (PeripheralCall χ β)} (h : Carries characteristic exchange calls)
    (herror : exchange.error = none) : ∀ call ∈ calls, call.isOk = true := by
  cases h with
  | performed call result =>
      cases result with
      | error error => cases herror
      | ok _ => cases call <;> simp [carried, PeripheralCall.isOk, Except.isOk, Except.toBool]
  | received item =>
      cases item with
      | none => cases herror
      | some item => simp [PeripheralCall.isOk]

end Peripheral

/-! ## The system on the adapter -/

section System

open BtleplugTransport

variable {p : Peripheral π χ ν β} {config : ActorConfig} {buffer : NotificationBuffer}
  {transport : RecordedTransport π χ ν β}
  {q : Runtime (Btleplug.Error β) × BoardState (RecordedTransport π χ ν β)}

/-- What the peripheral got after `new`, and what callers and subscribers know of it. -/
structure EndToEnd (uuid : χ → Uuid) (characteristic : Characteristic → χ)
    (s : Runtime (Btleplug.Error β)) (session : List (PeripheralCall χ β)) : Prop where
  addresses : Addresses uuid characteristic
  /-- The peripheral got what the actor has in its record, in the same order. -/
  carries : CarriesAll characteristic s.actor.exchanges session
  /-- No write is missing that a caller of `send` was told of. -/
  sent : ∀ command, s.calls.countP (Call.hasSent command)
    ≤ session.countP (PeripheralCall.wrote uuid command)
  /-- What a query returns, the board has reported. -/
  battery : ∀ call ∈ s.calls, ∀ reply status,
    call.stage = .completed reply (.ok (.batteryStatus status)) →
      ∃ item, .next (some item) ∈ session ∧ item.Reports (.batteryStatus status)
  pieces : ∀ call ∈ s.calls, ∀ reply status,
    call.stage = .completed reply (.ok (.pieceStatus status)) →
      ∃ item, .next (some item) ∈ session ∧ item.Reports (.pieceStatus status)
  /-- What a subscriber receives, the board has reported. -/
  received : ∀ reader ∈ s.streams, ∀ event, .ok event ∈ reader.results →
    ∃ item, .next (some item) ∈ session ∧ item.Reports event
  /-- After an `Ok` of `shutdown` no call has failed, and the last ones took the subscriptions
      back. -/
  shutDown : ∀ call ∈ s.calls, call.request = .shutdown → ∀ reply,
    call.stage = .completed reply (.ok .done) → (∀ call ∈ session, call.isOk = true) ∧
      ∃ before, session = before ++ [.unsubscribe (characteristic .commandResponse) (.ok ()),
        .unsubscribe (characteristic .positionNotification) (.ok ())]

/-- The peripheral got what the actor has in its record. -/
theorem ReachableOn.carries {peripheral : π}
    (hnew : new p.recorded (peripheral, []) = .ok transport)
    (h : ReachableOn (asyncTransport p.recorded) config ⟨transport, buffer⟩ q) :
    ∃ session, q.2.transport.peripheral.2
        = [.discoverServices (.ok ()), .notifications (.ok ())] ++ session ∧
      CarriesAll transport.characteristic q.1.actor.exchanges session := by
  have hinvariant : q.2.transport.characteristic = transport.characteristic ∧
      ∃ session, q.2.transport.peripheral.2
          = [.discoverServices (.ok ()), .notifications (.ok ())] ++ session ∧
        CarriesAll transport.characteristic q.1.actor.exchanges session := by
    refine h.exchanges (P := fun exchanges board =>
      board.transport.characteristic = transport.characteristic ∧
        ∃ session, board.transport.peripheral.2
            = [.discoverServices (.ok ()), .notifications (.ok ())] ++ session ∧
          CarriesAll transport.characteristic exchanges session) ?_ ?_ ?_
    · exact ⟨rfl, [], (recorded_of_new hnew).trans (List.append_nil _).symm, .nil⟩
    · rintro exchanges board call ⟨hsame, session, hlog, hcarries⟩
      obtain ⟨calls, hcall, hlog', hsame'⟩ := perform_carries board p call
      refine ⟨hsame'.trans hsame, session ++ calls, ?_, hcarries.snoc (hsame ▸ hcall)⟩
      rw [hlog', hlog, List.append_assoc]
    · rintro exchanges board ⟨hsame, session, hlog, hcarries⟩
      obtain ⟨item, hresult, hlog', hsame'⟩ := receive_carries board p
      refine ⟨hsame'.trans hsame, session ++ [.next item], ?_, ?_⟩
      · rw [hlog', hlog, List.append_assoc]
      · rw [hresult]
        exact hcarries.snoc (.received item)
  exact hinvariant.2

theorem exists_report {s : Runtime (Btleplug.Error β)} (h : Reachable config s)
    {characteristic : Characteristic → χ} {session : List (PeripheralCall χ β)}
    (hcarries : CarriesAll characteristic s.actor.exchanges session) {event : BoardEvent}
    (hmem : .ok event ∈ s.actor.eventTx) :
    ∃ item, .next (some item) ∈ session ∧ item.Reports event := by
  obtain ⟨notification, hreceived, hdecode⟩ := exists_notification h.actor hmem
  obtain ⟨calls, hcall, hsub⟩ := hcarries.exists_of_mem hreceived
  generalize hexchange : Exchange.received (.ok notification) = exchange at hcall
  cases hcall with
  | performed => cases hexchange
  | received item =>
      obtain ⟨value, rfl, hreports⟩ :=
        reports_of_routed (Exchange.received.inj hexchange).symm hdecode
      exact ⟨value, hsub (List.mem_singleton_self _), hreports⟩

def batteryItems : List ValueNotification :=
  [⟨.fromU128 Characteristic.commandResponse.uuidU128, [0x41, 0x03, 0x0c, 0x01, 74]⟩]

/-- The stream of this peripheral brings a battery status. -/
def batteryPeripheral : Peripheral Unit Uuid (List ValueNotification) Unit :=
  { listPeripheral with notifications := fun _ => (.ok batteryItems, ()) }

def batteryTransport : RecordedTransport Unit Uuid (List ValueNotification) Unit where
  peripheral := ((), [.discoverServices (.ok ()), .notifications (.ok ())])
  commandWrite := .fromU128 Characteristic.commandWrite.uuidU128
  positionNotification := .fromU128 Characteristic.positionNotification.uuidU128
  commandResponse := .fromU128 Characteristic.commandResponse.uuidU128
  notifications := batteryItems

/-- A battery query and a shutdown; the peripheral decides what a call or a notification brings. -/
def servedRun : List (RuntimeAction (Btleplug.Error Unit)) :=
  [.actor (.callReturned (.ok ())), .actor (.callReturned (.ok ())),
    .actor (.callReturned (.ok ())), .actor .proceed, .call .batteryStatus, .sendMessage 0,
    .reserve 0, .sendReturned 0, .actor .receive, .actor (.callReturned (.ok ())), .actor .proceed,
    .actor (.notification (.error .notificationStreamEnded)), .receiveReply 0, .actor .proceed,
    .call .shutdown, .sendMessage 1, .reserve 1, .sendReturned 1, .actor .receive,
    .actor .proceed, .actor .proceed, .actor .proceed, .actor (.callReturned (.ok ())),
    .actor (.callReturned (.ok ())), .actor (.callReturned (.ok ())), .actor .proceed,
    .receiveReply 1]

end System

end Runtime

end Tokio

end ChessnutMove
