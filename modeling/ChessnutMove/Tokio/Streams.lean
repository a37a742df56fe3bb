import ChessnutMove.Tokio.Calls

set_option autoImplicit false

/-! # What event streams deliver

An event stream reads the broadcast channel at its own pace. What it was handed, with the gaps of
its lag notices filled in, is the piece of the published values from its subscription to its
position; it lags only when more values than the channel keeps are unread, and it closes only after
the task is gone and everything has been read. -/

namespace ChessnutMove.Tokio

variable {ε : Type}

/-- The values that were handed over, oldest first. -/
def Reader.values (reader : Reader) : List Published :=
  reader.items.filterMap BroadcastLog.Received.value?

/-- How many values the lag notices announced as missed. -/
def Reader.missed (reader : Reader) : Nat :=
  (reader.items.map BroadcastLog.Received.missed).sum

/-- The reader after `recv` has returned. -/
def Reader.advance (reader : Reader) (item : BroadcastLog.Received Published) (next : Nat) :
    Reader :=
  { reader with next, items := reader.items ++ [item] }

/-- The reader after it has read what is left of the values sent. -/
def Reader.drained (reader : Reader) (sent : List Published) : Reader :=
  { reader with
    next := sent.length
    items := reader.items ++ (sent.drop reader.next).map .value }

@[simp] theorem Reader.values_advance (reader : Reader)
    (item : BroadcastLog.Received Published) (next : Nat) :
    (reader.advance item next).values = reader.values ++ item.value?.toList := by
  cases hvalue : item.value? <;> simp [Reader.values, Reader.advance, hvalue]

@[simp] theorem Reader.missed_advance (reader : Reader)
    (item : BroadcastLog.Received Published) (next : Nat) :
    (reader.advance item next).missed = reader.missed + item.missed := by
  simp [Reader.missed, Reader.advance]

@[simp] theorem Reader.values_drained (reader : Reader) (sent : List Published) :
    (reader.drained sent).values = reader.values ++ sent.drop reader.next := by
  have hvalue : BroadcastLog.Received.value? ∘ BroadcastLog.Received.value = @some Published :=
    rfl
  rw [Reader.values, Reader.drained, List.filterMap_append, List.filterMap_map, hvalue,
    List.filterMap_some]
  rfl

@[simp] theorem Reader.missed_drained (reader : Reader) (sent : List Published) :
    (reader.drained sent).missed = reader.missed := by
  simp [Reader.missed, Reader.drained, BroadcastLog.Received.missed, Function.comp_def]

@[simp] theorem Reader.results_advance (reader : Reader)
    (item : BroadcastLog.Received Published) (next : Nat) :
    (reader.advance item next).results = reader.results ++ [EventStream.recv item] := by
  simp [Reader.results, Reader.advance]

theorem EventStream.recv_eq_closed_iff {item : BroadcastLog.Received Published} :
    EventStream.recv item = .error .closed ↔ item = .closed := by
  cases item with
  | value value => cases value <;> simp [EventStream.recv, EventStream.pollNext]
  | _ => simp [EventStream.recv, EventStream.pollNext]

namespace Runtime

section Streams

variable {config : ActorConfig} {s s' : Runtime ε} {action : RuntimeAction ε}

/-! ## The channel -/

theorem eventLog_keeps (s : Runtime ε) : s.eventLog.Keeps s.actor.eventTx := by
  have hkeeps := (BroadcastLog.keeps_new s.retained).foldl_send s.actor.eventTx
  unfold eventLog
  split
  · exact hkeeps.close
  · exact hkeeps

theorem eventLog_capacity (s : Runtime ε) : s.eventLog.capacity = s.retained := by
  unfold eventLog
  split <;> simp [BroadcastLog.foldl_send_capacity]

theorem eventLog_closed (s : Runtime ε) : s.eventLog.closed = s.isOver := by
  unfold eventLog
  split
  · next hover => simp [hover]
  · next hover => simp [BroadcastLog.foldl_send_closed, BroadcastLog.new, hover]

theorem retained_le (h : Reachable config s) : config.eventCapacity ≤ s.retained := by
  refine h.induct (P := fun s => config.eventCapacity ≤ s.retained)
    (fun _ _ _ hretained => hretained) ?_
  intro s action s' _ hs hst
  cases hst with
  | _ => exact hs

/-! ## The account of a stream -/

/-- What the reader has passed since its subscription. -/
def passed (s : Runtime ε) (reader : Reader) : List Published :=
  (s.actor.eventTx.take reader.next).drop reader.subscribedAt

/-- What a stream has delivered accounts for what it has passed. -/
structure Follows (s : Runtime ε) (reader : Reader) : Prop where
  /-- The stream was handed to the caller of a `subscribe_events`. -/
  opened : ∃ reply,
    .replied reply (.ok (.stream reader.toEventStream)) ∈ s.actor.events
  start_le : reader.subscribedAt ≤ reader.next
  next_le : reader.next ≤ s.actor.eventTx.length
  covers : BroadcastLog.Covers reader.items (s.passed reader)
  /-- It closes at the end only. -/
  closed : .closed ∈ reader.items → s.isOver = true ∧ reader.next = s.actor.eventTx.length

theorem exists_eventTx_append (h : Transition config s action s') :
    ∃ more, s'.actor.eventTx = s.actor.eventTx ++ more := by
  rcases actor_step h with heq | ⟨a, hstep, -⟩
  · exact ⟨[], by rw [heq, List.append_nil]⟩
  · obtain ⟨es, hes⟩ := Actor.publishes_of_transition hstep
    exact ⟨_, hes.eventTx_eq⟩

/-- More may be published behind a reader. -/
theorem Follows.step {reader : Reader} (hreach : Reachable config s) (hs : Follows s reader)
    (h : Transition config s action s') : Follows s' reader := by
  obtain ⟨more, hmore⟩ := exists_eventTx_append h
  obtain ⟨reply, hreply⟩ := hs.opened
  refine ⟨⟨reply, events_step h hreply⟩, hs.start_le, ?_, ?_, ?_⟩
  · rw [hmore, List.length_append]
    exact Nat.le_add_right_of_le hs.next_le
  · rw [passed, hmore, List.take_append_of_le_length hs.next_le]
    exact hs.covers
  · intro hclosed
    obtain ⟨hover, hend⟩ := hs.closed hclosed
    refine ⟨isOver_step hreach hover h, ?_⟩
    rw [hend, (idles_of_isOver hreach hover h).eventTx]

/-- A stream that has just been handed over. -/
theorem follows_new (h : Reachable config s) {reply : ReplyId} {stream : EventStream}
    (hreplied : .replied reply (.ok (.stream stream)) ∈ s.actor.events) :
    Follows s (Reader.new stream) := by
  have hsent : stream.subscribedAt ≤ s.actor.eventTx.length := by
    obtain ⟨message, -, -, hgives⟩ := Actor.given h.actor _ _ hreplied
    generalize hvalue : (Except.ok (ReplyValue.stream stream) : Reply) = value at hgives
    cases hgives with
    | subscribed reply stream' hsent =>
        cases hvalue
        exact hsent
    | answered query event value hanswer =>
        cases hvalue
        cases query <;> cases event <;> cases hanswer
    | shutDown =>
        unfold Actor.shutdownOutcome at hvalue
        split at hvalue <;> cases hvalue
    | _ => cases hvalue
  refine ⟨⟨reply, hreplied⟩, Nat.le_refl _, hsent, ?_, ?_⟩
  · have hnil : s.passed (Reader.new stream) = [] := by
      simp [passed, Reader.new]
    rw [hnil]
    exact .nil
  · intro hclosed
    cases hclosed

/-- `recv` goes on with the account. -/
theorem Follows.advance {reader : Reader} (hs : Follows s reader)
    {item : BroadcastLog.Received Published} {next : Nat}
    (hread : s.eventLog.recv reader.next = some (item, next)) :
    Follows s (reader.advance item next) := by
  have hreads := s.eventLog_keeps.reads hs.next_le hread
  obtain ⟨hforward, hnext⟩ := hreads.next_le hs.next_le
  refine ⟨hs.opened, hs.start_le.trans hforward, hnext, ?_, ?_⟩
  · exact hs.covers.step hs.start_le hs.next_le hreads
  · intro hclosed
    rcases List.mem_append.1 hclosed with hclosed | hclosed
    · obtain ⟨hover, hend⟩ := hs.closed hclosed
      exact ⟨hover, Nat.le_antisymm hnext (hend ▸ hforward)⟩
    · obtain rfl := List.mem_singleton.1 hclosed
      cases hreads with
      | closed hend hover => exact ⟨s.eventLog_closed ▸ hover, hend⟩

theorem follows (h : Reachable config s) : ∀ reader ∈ s.streams, Follows s reader := by
  refine h.induct (P := fun s => ∀ reader ∈ s.streams, Follows s reader) ?_ ?_
  · intro retained now _ _ reader hmem
    cases hmem
  · intro s action s' hreach hs hst reader hmem
    have hst' := hst
    cases hst with
    | turnedAway i request error hcall | unsent i request hcall | abandoned i request reply hcall
    | lost i request hcall =>
        rw [streams_complete] at hmem
        exact (hs reader (by simpa [Reply.opened] using hmem)).step hreach hst'
    | answered i request reply value hcall hsent =>
        rw [streams_complete] at hmem
        rcases List.mem_append.1 hmem with hmem | hmem
        · exact (hs reader hmem).step hreach hst'
        · unfold Reply.opened at hmem
          split at hmem
          · next stream =>
              obtain rfl := List.mem_singleton.1 hmem
              exact (follows_new hreach (Actor.replied_of_sentOn hsent)).step hreach hst'
          · cases hmem
    | recv j reader' item next hreader hread =>
        rcases List.mem_or_eq_of_mem_set hmem with hmem | rfl
        · exact (hs reader hmem).step hreach hst'
        · have hfollows := (hs reader' (List.mem_of_getElem? hreader)).advance hread
          exact hfollows.step hreach hst'
    | _ => exact (hs reader hmem).step hreach hst'

/-! ## Streams and notifications -/

theorem observed_of_reachable {s : Actor ε} (h : Actor.Reachable config s) :
    s.eventTx = s.notifications.filterMap observe :=
  h.induct (fun _ => rfl) fun _ _ _ _ hs hst => Actor.observed_step hs hst

/-- What a subscriber can rely on. -/
structure Delivers (s : Runtime ε) (reader : Reader) : Prop where
  /-- The published values are what the notifications make observable, and the stream starts behind
      those that were published before its request was handled. -/
  observed : s.actor.eventTx = s.actor.notifications.filterMap observe
  subscribed : ∃ before reply after,
    s.actor.events = before ++ .replied reply (.ok (.stream reader.toEventStream)) :: after ∧
      reader.subscribedAt = (before.filterMap Event.publishedValue).length
  /-- Values arrive in order, each once, and what does not arrive is announced. -/
  covers : BroadcastLog.Covers reader.items (s.passed reader)
  sublist : reader.values.Sublist (s.passed reader)
  count : reader.values.length + reader.missed = (s.passed reader).length
  /-- A subscriber that was told of no lag has received everything up to its position. -/
  complete : reader.missed = 0 → reader.values = s.passed reader
  /-- `Closed` says that the task is gone and nothing is left. -/
  closed : .error .closed ∈ reader.results →
    s.isOver = true ∧ s.passed reader = s.actor.eventTx.drop reader.subscribedAt

/-- **Event streams lose nothing silently.** -/
theorem streams_deliver (h : Reachable config s) {reader : Reader} (hmem : reader ∈ s.streams) :
    Delivers s reader := by
  have hfollows := follows h reader hmem
  refine ⟨observed_of_reachable h.actor, ?_, hfollows.covers, hfollows.covers.sublist,
    hfollows.covers.length_eq, hfollows.covers.eq_of_missed_eq_zero, ?_⟩
  · obtain ⟨reply, hreplied⟩ := hfollows.opened
    obtain ⟨before, after, heq⟩ := List.append_of_mem hreplied
    exact ⟨before, reply, after, heq,
      Actor.subscribed_of_reachable h.actor before _ after heq reply _ rfl⟩
  · intro hclosed
    obtain ⟨item, hitem, hrecv⟩ := List.mem_map.1 hclosed
    obtain rfl := EventStream.recv_eq_closed_iff.1 hrecv
    obtain ⟨hover, hend⟩ := hfollows.closed hitem
    exact ⟨hover, by rw [passed, hend, List.take_length]⟩

/-- A subscriber is one value behind what the channel keeps when it first reads, and the task is
cancelled after one more value. -/
def subscriberRun : List (RuntimeAction Unit) :=
  [.actor (.callReturned (.ok ())), .actor (.callReturned (.ok ())),
    .actor (.callReturned (.ok ())), .actor .proceed, .call .subscribeEvents, .sendMessage 0,
    .reserve 0, .sendReturned 0, .actor .receive, .receiveReply 0, .actor .proceed,
    .actor (.notification (.ok ⟨.position, []⟩)), .actor .proceed,
    .actor (.notification (.ok ⟨.commandResponse, [0x41, 0x03, 0x0c, 0x01, 74]⟩)),
    .actor .proceed, .recv 0, .actor (.notification (.ok ⟨.position, []⟩)), .actor .proceed,
    .abort, .cancel]

theorem subscriberRun_delivers :
    ∃ s, runFrom { ActorConfig.default with eventCapacity := 1 } 1 .zero subscriberRun = some s ∧
      (⟨⟨0⟩, 1, [.lagged 1]⟩ : Reader) ∈ s.streams ∧ Delivers s ⟨⟨0⟩, 1, [.lagged 1]⟩ := by
  have hrun : runFrom { ActorConfig.default with eventCapacity := 1 } 1 .zero subscriberRun
      = some _ := rfl
  have hreach := Reachable.of_runFrom (.allocating (2 ^ 64 - 1) 1024) (by decide) (by decide) hrun
  refine ⟨_, hrun, List.mem_of_getElem? (i := 0) rfl, ?_⟩
  exact streams_deliver hreach (List.mem_of_getElem? (i := 0) rfl)

/-! ## Reading on -/

/-- The system after a read. -/
def setReader (s : Runtime ε) (j : Nat) (reader : Reader) : Runtime ε :=
  { s with streams := s.streams.set j reader }

theorem step_recv {j : Nat} {reader : Reader} (hreader : s.streams[j]? = some reader) :
    step config s (.recv j) = (s.eventLog.recv reader.next).map fun read =>
      s.setReader j (reader.advance read.1 read.2) := by
  simp only [step, hreader]
  rfl

theorem getElem?_setReader {j : Nat} {reader reader' : Reader}
    (hreader : s.streams[j]? = some reader) : (s.setReader j reader').streams[j]? = some reader' :=
  List.getElem?_set_self (List.getElem?_eq_some_iff.1 hreader).1

/-- A reader that is near enough reads what is left. -/
theorem run_recv_values {j n : Nat} {reader : Reader} (hreader : s.streams[j]? = some reader)
    (hleft : reader.next + n = s.actor.eventTx.length) (hnear : n ≤ s.retained) :
    ∃ streams, StepMachine.run (step config) s (List.replicate n (.recv j))
        = some { s with streams } ∧
      streams[j]? = some (reader.drained s.actor.eventTx) := by
  induction n generalizing s reader with
  | zero =>
      have hnil : s.actor.eventTx.drop reader.next = [] :=
        List.drop_eq_nil_of_le (Nat.le_of_eq hleft.symm)
      refine ⟨s.streams, rfl, ?_⟩
      rw [hreader, Reader.drained, hnil, ← hleft, List.map_nil, List.append_nil, Nat.add_zero]
  | succ n ih =>
      have hlt : reader.next < s.actor.eventTx.length := by omega
      have hget := List.getElem?_eq_getElem hlt
      have hread := s.eventLog_keeps.recv_of_le (by rw [eventLog_capacity]; omega) hget
      let reader' := reader.advance (.value s.actor.eventTx[reader.next]) (reader.next + 1)
      have hstep : step config s (.recv j) = some (s.setReader j reader') := by
        rw [step_recv hreader, hread, Option.map_some]
      have hreader' : (s.setReader j reader').streams[j]? = some reader' :=
        getElem?_setReader hreader
      have hleft' : reader'.next + n = (s.setReader j reader').actor.eventTx.length := by
        show reader.next + 1 + n = s.actor.eventTx.length
        omega
      have hnear' : n ≤ (s.setReader j reader').retained := by
        show n ≤ s.retained
        omega
      obtain ⟨streams, hrun, hlast⟩ := ih hreader' hleft' hnear'
      refine ⟨streams, StepMachine.run_cons_eq_some.2 ⟨_, hstep, hrun⟩, ?_⟩
      rw [hlast, Reader.drained, Reader.drained, List.drop_eq_getElem_cons hlt]
      simp only [reader', Reader.advance, setReader, List.map_cons, List.append_assoc,
        List.singleton_append]

/-- What reading does, now and after the end. -/
structure ReadsOn (config : ActorConfig) (s : Runtime ε) (j : Nat) (reader : Reader) : Prop where
  /-- A lag notice comes only when more values are unread than the configured capacity, and it
      announces what the channel does not keep. -/
  lag : ∀ missed next, s.eventLog.recv reader.next = some (.lagged missed, next) →
    config.eventCapacity < s.actor.eventTx.length - reader.next ∧
      reader.next + missed = next ∧ next + s.retained = s.actor.eventTx.length
  /-- While the task goes on, a reader that has read everything waits. -/
  waits : s.isOver = false → reader.next = s.actor.eventTx.length →
    step config s (.recv j) = none
  /-- Once the task is gone, reading on gives everything that is kept, and then `Closed`. -/
  drains : s.isOver = true → ∃ n streams reader',
    StepMachine.run (step config) s (List.replicate n (.recv j)) = some { s with streams } ∧
      streams[j]? = some reader' ∧
      reader'.values = reader.values
        ++ s.actor.eventTx.drop (max reader.next (s.actor.eventTx.length - s.retained)) ∧
      reader'.missed = reader.missed + (s.actor.eventTx.length - s.retained - reader.next) ∧
      reader'.results.getLast? = some (.error .closed)

/-- At the end of a channel whose sender is gone, `recv` returns `Closed`. -/
theorem step_recv_end (hover : s.isOver = true) {j : Nat} {reader : Reader}
    (hreader : s.streams[j]? = some reader) (hend : reader.next = s.actor.eventTx.length) :
    step config s (.recv j) = some (s.setReader j (reader.advance .closed reader.next)) := by
  have hread := s.eventLog_keeps.recv_end
  rw [← hend, eventLog_closed, hover, if_pos rfl] at hread
  rw [step_recv hreader, hread, Option.map_some]

/-- A reader that is near enough drains the channel. -/
theorem run_recv_drains (hover : s.isOver = true) {j : Nat} {reader : Reader}
    (hreader : s.streams[j]? = some reader) (hle : reader.next ≤ s.actor.eventTx.length)
    (hnear : s.actor.eventTx.length ≤ reader.next + s.retained) :
    ∃ n streams, StepMachine.run (step config) s (List.replicate n (.recv j))
        = some { s with streams } ∧
      streams[j]?
        = some ((reader.drained s.actor.eventTx).advance .closed s.actor.eventTx.length) := by
  obtain ⟨streams, hrun, hlast⟩ := run_recv_values hreader (Nat.add_sub_cancel' hle)
    (Nat.sub_le_iff_le_add'.2 hnear)
  have hover' : ({ s with streams } : Runtime ε).isOver = true := hover
  have hlast' : ({ s with streams } : Runtime ε).streams[j]? = some (reader.drained _) := hlast
  refine ⟨s.actor.eventTx.length - reader.next + 1, _, ?_, getElem?_setReader hlast'⟩
  rw [List.replicate_succ', StepMachine.run_append, hrun]
  exact StepMachine.run_cons_eq_some.2 ⟨_, step_recv_end hover' hlast' rfl, rfl⟩

/-- **A subscriber misses only what the channel had to discard.** -/
theorem streams_read_on (h : Reachable config s) {j : Nat} {reader : Reader}
    (hreader : s.streams[j]? = some reader) : ReadsOn config s j reader := by
  have hle := (follows h reader (List.mem_of_getElem? hreader)).next_le
  have hkeeps := s.eventLog_keeps
  have hcapacity := s.eventLog_capacity
  have hretained := retained_le h
  refine ⟨?_, ?_, ?_⟩
  · intro missed next hread
    cases hkeeps.reads hle hread with
    | lagged hlag =>
        rw [hcapacity] at hlag ⊢
        omega
  · intro hover hend
    have hread := hkeeps.recv_end
    rw [← hend, eventLog_closed, hover, if_neg (by simp)] at hread
    rw [step_recv hreader, hread, Option.map_none]
  · intro hover
    by_cases hlag : reader.next + s.retained < s.actor.eventTx.length
    · -- one lag notice first
      let oldest := s.actor.eventTx.length - s.retained
      let reader' := reader.advance (.lagged (oldest - reader.next)) oldest
      have hread := hkeeps.recv_of_lt (hcapacity.symm ▸ hlag)
      rw [hcapacity] at hread
      have hstep : step config s (.recv j) = some (s.setReader j reader') := by
        rw [step_recv hreader, hread, Option.map_some]
      have hreader' : (s.setReader j reader').streams[j]? = some reader' :=
        getElem?_setReader hreader
      have hover' : (s.setReader j reader').isOver = true := hover
      have hle' : reader'.next ≤ (s.setReader j reader').actor.eventTx.length :=
        Nat.sub_le _ s.retained
      have hnear : (s.setReader j reader').actor.eventTx.length
          ≤ reader'.next + (s.setReader j reader').retained := by
        show s.actor.eventTx.length ≤ s.actor.eventTx.length - s.retained + s.retained
        omega
      obtain ⟨n, streams, hrun, hlast⟩ := run_recv_drains hover' hreader' hle' hnear
      refine ⟨n + 1, streams, _, StepMachine.run_cons_eq_some.2 ⟨_, hstep, hrun⟩, hlast, ?_, ?_, ?_⟩
      · have hmax : max reader.next oldest = oldest := Nat.max_eq_right (by omega)
        show (((reader'.drained _).advance .closed _)).values = _
        rw [Reader.values_advance, Reader.values_drained, Reader.values_advance, hmax]
        simp only [BroadcastLog.Received.value?, Option.toList_none, List.append_nil]
        rfl
      · simp [reader', BroadcastLog.Received.missed, oldest]
      · simp [EventStream.recv, EventStream.pollNext]
    · obtain ⟨n, streams, hrun, hlast⟩ :=
        run_recv_drains hover hreader hle (Nat.le_of_not_lt hlag)
      refine ⟨n, streams, _, hrun, hlast, ?_, ?_, ?_⟩
      · have hmax : max reader.next (s.actor.eventTx.length - s.retained) = reader.next :=
          Nat.max_eq_left (by omega)
        simp [BroadcastLog.Received.value?, hmax]
      · have hnone : s.actor.eventTx.length - s.retained - reader.next = 0 := by omega
        simp [BroadcastLog.Received.missed, hnone]
      · simp [EventStream.recv, EventStream.pollNext]

theorem subscriberRun_reads_on :
    ∃ s, runFrom { ActorConfig.default with eventCapacity := 1 } 1 .zero subscriberRun = some s ∧
      s.isOver = true ∧
      ReadsOn { ActorConfig.default with eventCapacity := 1 } s 0 ⟨⟨0⟩, 1, [.lagged 1]⟩ := by
  have hrun : runFrom { ActorConfig.default with eventCapacity := 1 } 1 .zero subscriberRun
      = some _ := rfl
  have hreach := Reachable.of_runFrom (.allocating (2 ^ 64 - 1) 1024) (by decide) (by decide) hrun
  exact ⟨_, hrun, rfl, streams_read_on hreach rfl⟩

end Streams

end Runtime

end ChessnutMove.Tokio
