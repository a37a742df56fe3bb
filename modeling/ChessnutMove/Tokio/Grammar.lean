import ChessnutMove.Tokio.Outcomes

set_option autoImplicit false

/-! # The grammar of transport calls and lifecycle states

`Word` is the language of complete traces: the startup sequence up to its first failure; if it
succeeded, `Running` and any number of items of the main loop of which only the last may fail; then
`ShuttingDown`, the cleanup sequence up to its first failure, and the final state. `Shape` says, for
every phase, which part of a word the trace of the actor is. -/

namespace ChessnutMove.Tokio

variable {ε : Type}

/-- The events the grammar is about: transport calls and lifecycle states. -/
def Event.traced : Event ε → Bool
  | .called _ _ | .returned _ _ _ | .nextNotification | .notified _ | .lifecycle _ => true
  | .enqueued _ | .received _ | .replied _ _ | .published _ => false

/-! ## The language -/

/-- Calls awaited one after another with `?`, and whether all succeeded. -/
inductive Attempt : List TransportCall → List (Event ε) → Bool → Prop
  | nil : Attempt [] [] true
  | failed (call : TransportCall) (rest : List TransportCall) (error : ε) :
      Attempt (call :: rest) [.called call none, .returned call none (.error error)] false
  | next (call : TransportCall) {rest : List TransportCall} {events : List (Event ε)} {ok : Bool}
      (h : Attempt rest events ok) :
      Attempt (call :: rest) (.called call none :: .returned call none (.ok ()) :: events) ok

/-- What the main loop does with the transport, one item at a time, and whether it succeeded. -/
inductive Item : List (Event ε) → Bool → Prop
  | nextNotification : Item [.nextNotification] true
  | notified (notification : Notification) : Item [.notified (.ok notification)] true
  | notificationFailed (error : ε) : Item [.notified (.error error)] false
  | write (command : Command) (owner : Message) :
      Item [.called (.writeCommand command) (some owner),
        .returned (.writeCommand command) (some owner) (.ok ())] true
  | writeFailed (command : Command) (owner : Message) (error : ε) :
      Item [.called (.writeCommand command) (some owner),
        .returned (.writeCommand command) (some owner) (.error error)] false

/-- Any number of items, of which only the last may fail. -/
inductive Loop : List (Event ε) → Bool → Prop
  | nil : Loop [] true
  | snoc {events item : List (Event ε)} {ok : Bool} (h : Loop events true) (hitem : Item item ok) :
      Loop (events ++ item) ok

/-- The part before `ShuttingDown`: a failed startup, or a whole one, `Running` and the loop. -/
inductive Left : List (Event ε) → Bool → Prop
  | failed {startup : List (Event ε)} (h : Attempt initializeTransport.toList startup false) :
      Left (.lifecycle .starting :: startup) false
  | ran {startup loop : List (Event ε)} {ok : Bool}
      (h : Attempt initializeTransport.toList startup true) (hloop : Loop loop ok) :
      Left (.lifecycle .starting :: startup ++ .lifecycle .running :: loop) ok

/-- The complete traces. The final state is `Stopped` if nothing failed, else `Faulted`. -/
inductive Word : List (Event ε) → Prop
  | mk {left cleanup : List (Event ε)} {ok cleaned : Bool} (h : Left left ok)
      (hcleanup : Attempt shutdownTransport.toList cleanup cleaned) :
      Word (left ++ .lifecycle .shuttingDown :: cleanup ++
        [.lifecycle (if ok && cleaned then .stopped else .faulted)])

/-- The beginnings of words. -/
def WordPrefix (trace : List (Event ε)) : Prop := ∃ rest, Word (trace ++ rest)

/-! ## Building words -/

/-- Calls that all succeed. -/
def succeeding (calls : List TransportCall) : List (Event ε) :=
  calls.flatMap fun call => [.called call none, .returned call none (.ok ())]

@[simp] theorem succeeding_append (first calls : List TransportCall) :
    succeeding (ε := ε) (first ++ calls) = succeeding first ++ succeeding calls :=
  List.flatMap_append

@[simp] theorem succeeding_cons (call : TransportCall) (calls : List TransportCall) :
    succeeding (ε := ε) (call :: calls)
      = .called call none :: .returned call none (.ok ()) :: succeeding calls := rfl

@[simp] theorem succeeding_nil : succeeding (ε := ε) [] = [] := rfl

theorem attempt_succeeding (calls : List TransportCall) :
    Attempt (ε := ε) calls (succeeding calls) true := by
  induction calls with
  | nil => exact .nil
  | cons call rest ih => exact .next call ih

theorem attempt_append {first calls : List TransportCall} {events : List (Event ε)} {ok : Bool}
    (h : Attempt calls events ok) : Attempt (first ++ calls) (succeeding first ++ events) ok := by
  induction first with
  | nil => exact h
  | cons call first ih => exact .next call ih

theorem attempt_failed (first : List TransportCall) (call : TransportCall)
    (rest : List TransportCall) (error : ε) :
    Attempt (first ++ call :: rest)
      (succeeding first ++ [.called call none, .returned call none (.error error)]) false :=
  attempt_append (.failed call rest error)

/-- A successful startup and a loop without failure. -/
def Running (trace : List (Event ε)) : Prop :=
  ∃ startup loop, Attempt initializeTransport.toList startup true ∧ Loop loop true ∧
    trace = .lifecycle .starting :: startup ++ .lifecycle .running :: loop

section Running

variable {trace item : List (Event ε)} {ok : Bool}

theorem Running.left_item (h : Running trace) (hitem : Item item ok) : Left (trace ++ item) ok := by
  obtain ⟨startup, loop, hstartup, hloop, rfl⟩ := h
  rw [List.append_assoc, List.cons_append]
  exact .ran hstartup (.snoc hloop hitem)

theorem Running.left (h : Running trace) : Left trace true := by
  obtain ⟨startup, loop, hstartup, hloop, rfl⟩ := h
  exact .ran hstartup hloop

theorem Running.snoc (h : Running trace) (hitem : Item item true) : Running (trace ++ item) := by
  obtain ⟨startup, loop, hstartup, hloop, rfl⟩ := h
  exact ⟨startup, loop ++ item, hstartup, .snoc hloop hitem, by simp⟩

theorem running_start {startup : List (Event ε)}
    (h : Attempt initializeTransport.toList startup true) :
    Running (.lifecycle .starting :: startup ++ [.lifecycle .running]) :=
  ⟨startup, [], h, .nil, rfl⟩

theorem WordPrefix.of_append {more : List (Event ε)} (h : WordPrefix (trace ++ more)) :
    WordPrefix trace := by
  obtain ⟨rest, hword⟩ := h
  exact ⟨more ++ rest, by rwa [← List.append_assoc]⟩

/-- The part before `ShuttingDown` can be completed by a successful cleanup. -/
theorem Left.wordPrefix (h : Left trace ok) :
    WordPrefix (trace ++ .lifecycle .shuttingDown :: succeeding shutdownTransport.toList) :=
  ⟨_, .mk h (attempt_succeeding _)⟩

end Running

/-! ## Words announce the shutdown -/

theorem Word.shuttingDown {trace : List (Event ε)} (h : Word trace) :
    .lifecycle .shuttingDown ∈ trace := by
  obtain ⟨hleft, hcleanup⟩ := h
  simp

theorem Attempt.not_lifecycle {calls : List TransportCall} {events : List (Event ε)} {ok : Bool}
    (h : Attempt calls events ok) (state : LifecycleState) : .lifecycle state ∉ events := by
  induction h with
  | nil => simp
  | failed call rest error => simp
  | next call h ih => simpa using ih

theorem Loop.not_lifecycle {events : List (Event ε)} {ok : Bool} (h : Loop events ok)
    (state : LifecycleState) : .lifecycle state ∉ events := by
  induction h with
  | nil => simp
  | snoc h hitem ih =>
      rw [List.mem_append, not_or]
      refine ⟨ih, ?_⟩
      cases hitem <;> simp

theorem Running.not_shuttingDown {trace : List (Event ε)} (h : Running trace) :
    .lifecycle .shuttingDown ∉ trace := by
  obtain ⟨startup, loop, hstartup, hloop, rfl⟩ := h
  simp [hstartup.not_lifecycle, hloop.not_lifecycle]

namespace Actor

/-! ## The trace of a run -/

/-- The transport calls and lifecycle states of a log. -/
def trace (log : List (Entry ε)) : List (Event ε) :=
  (log.map Entry.event).filter Event.traced

@[simp] theorem trace_append (log log' : List (Entry ε)) :
    trace (log ++ log') = trace log ++ trace log' := by
  simp [trace]

@[simp] theorem trace_nil : trace ([] : List (Entry ε)) = [] := rfl

@[simp] theorem trace_cons (entry : Entry ε) (log : List (Entry ε)) :
    trace (entry :: log) =
      if entry.event.traced then entry.event :: trace log else trace log := by
  simp [trace, List.filter_cons]

/-- Which part of a word the trace is, by phase; `result` records whether anything failed. -/
def Shape (s : Actor ε) : Prop :=
  match s.phase with
  | .initializing calls => ∃ first, s.result = .ok () ∧
      initializeTransport.toList = first ++ calls.toList ∧
      trace s.log = .lifecycle .starting :: succeeding first ++ [.called calls.first none]
  | .loopTop | .selecting => Running (trace s.log) ∧ s.result = .ok ()
  | .startingQuery query => ∃ before, Running before ∧ s.result = .ok () ∧
      trace s.log = before ++ [.called (.writeCommand query.command) (some (.query query))]
  | .sending command reply => ∃ before, Running before ∧ s.result = .ok () ∧
      trace s.log = before ++ [.called (.writeCommand command) (some (.send command reply))]
  | .leaving => Left (trace s.log) s.result.isOk
  | .closing | .rejecting => ∃ left, Left left s.result.isOk ∧
      trace s.log = left ++ [.lifecycle .shuttingDown]
  | .cleaningUp calls => ∃ left first, Left left s.result.isOk ∧
      shutdownTransport.toList = first ++ calls.toList ∧
      trace s.log
        = left ++ .lifecycle .shuttingDown :: succeeding first ++ [.called calls.first none]
  | .finishing => ∃ left cleanup ok cleaned, Left left ok ∧
      Attempt shutdownTransport.toList cleanup cleaned ∧ s.result.isOk = (ok && cleaned) ∧
      trace s.log = left ++ .lifecycle .shuttingDown :: cleanup
  | .returned => Word (trace s.log)
  | .panicked _ => Running (trace s.log)

theorem shape_step {config : ActorConfig} {s s' : Actor ε} {action : Action ε} (hs : Shape s)
    (h : Transition config s action s') : Shape s' := by
  cases h with
  | enqueue request hreceives h =>
      have htrace : trace (s.log ++ [⟨s.now, .enqueued (request.message s.nextReply)⟩])
          = trace s.log := by simp [Event.traced]
      unfold Shape at hs ⊢
      simp only [phase_record, log_record, List.map_cons, List.map_nil, htrace]
      exact hs
  | reserve | cloneHandle | dropHandle | tick => exact hs
  | initializeFailed calls error hphase =>
      simp only [Shape, hphase] at hs
      obtain ⟨first, -, hcalls, htrace⟩ := hs
      have hleft := Left.failed (hcalls ▸ attempt_failed first calls.first calls.rest error)
      simpa [Shape, Event.traced, htrace] using hleft
  | initializeNext call next rest hphase =>
      simp only [Shape, hphase] at hs
      obtain ⟨first, hresult, hcalls, htrace⟩ := hs
      refine ⟨first ++ [call], hresult, ?_, ?_⟩
      · rw [hcalls]
        simp [Calls.toList]
      · simp [Event.traced, htrace]
  | initialized last hphase =>
      simp only [Shape, hphase] at hs
      obtain ⟨first, hresult, hcalls, htrace⟩ := hs
      have hattempt := attempt_succeeding (ε := ε) initializeTransport.toList
      have hrunning := running_start hattempt
      rw [hcalls] at hrunning
      simpa [Shape, Event.traced, htrace, hresult, Calls.toList] using hrunning
  -- the main loop
  | startQueued query rest hphase hpending hqueued =>
      simp only [Shape, hphase] at hs
      refine ⟨trace s.log, hs.1, hs.2, ?_⟩
      simp [Event.traced]
  | select hphase hready =>
      simp only [Shape, hphase] at hs
      have hrunning := hs.1.snoc .nextNotification
      simpa [Shape, Event.traced, hs.2] using hrunning
  | queryFailed query error hphase =>
      simp only [Shape, hphase] at hs
      obtain ⟨before, hrunning, -, htrace⟩ := hs
      have hleft := hrunning.left_item (.writeFailed query.command (.query query) error)
      simpa [Shape, Event.traced, htrace] using hleft
  | queryOverflowed query hphase hoverflow =>
      simp only [Shape, hphase] at hs
      obtain ⟨before, hrunning, -, htrace⟩ := hs
      have hrunning' := hrunning.snoc (.write query.command (.query query))
      simpa [Shape, unwind, Event.traced, htrace] using hrunning'
  | queryStarted query deadline hphase hdeadline =>
      simp only [Shape, hphase] at hs
      obtain ⟨before, hrunning, hresult, htrace⟩ := hs
      have hrunning' := hrunning.snoc (.write query.command (.query query))
      simpa [Shape, Event.traced, htrace, hresult] using hrunning'
  | sent command reply hphase =>
      simp only [Shape, hphase] at hs
      obtain ⟨before, hrunning, hresult, htrace⟩ := hs
      have hrunning' := hrunning.snoc (.write command (.send command reply))
      simpa [Shape, Event.traced, htrace, hresult] using hrunning'
  | sendFailed command reply error hphase =>
      simp only [Shape, hphase] at hs
      obtain ⟨before, hrunning, -, htrace⟩ := hs
      have hleft := hrunning.left_item (.writeFailed command (.send command reply) error)
      simpa [Shape, Event.traced, htrace] using hleft
  | receiveSend command reply waiting hphase hqueue =>
      simp only [Shape, hphase] at hs
      refine ⟨trace s.log, hs.1, hs.2, ?_⟩
      simp [Event.traced]
  | receiveFirstQuery query waiting hphase hqueue hpending hqueued =>
      simp only [Shape, hphase] at hs
      refine ⟨trace s.log, hs.1, hs.2, ?_⟩
      simp [Event.traced]
  | receiveQueued | receiveRefused | receiveSubscribe | timedOut =>
      simp_all [Shape, Event.traced]
  | receiveShutdown | handlesDropped =>
      simp_all [Shape, Event.traced, Running.left]
  | notificationFailed error hphase =>
      simp only [Shape, hphase] at hs
      have hleft := hs.1.left_item (.notificationFailed error)
      simpa [Shape, Event.traced] using hleft
  | resolved notification query value event hphase hpending hanswer hevent =>
      simp only [Shape, hphase] at hs
      have hrunning := hs.1.snoc (.notified notification)
      simpa [Shape, Event.traced, hs.2] using hrunning
  | observed notification hphase hanswer =>
      simp only [Shape, hphase] at hs
      have hrunning := hs.1.snoc (.notified notification)
      cases hobserve : observe notification <;>
        simpa [Shape, Event.traced, hs.2] using hrunning
  -- leaving
  | shutDown hphase =>
      simp only [Shape, hphase] at hs
      refine ⟨trace s.log, hs, ?_⟩
      simp [Event.traced]
  | closeRequests | rejectActive | rejectQueued | rejectMessage =>
      simp_all [Shape, Event.traced]
  | startCleanup hphase hpending hqueued hqueue =>
      simp only [Shape, hphase] at hs
      obtain ⟨left, hleft, htrace⟩ := hs
      refine ⟨left, [], hleft, rfl, ?_⟩
      simp [Event.traced, htrace]
  | cleanupFailed calls error hphase =>
      simp only [Shape, hphase] at hs
      obtain ⟨left, first, hleft, hcalls, htrace⟩ := hs
      refine ⟨left, _, s.result.isOk, false, hleft,
        hcalls ▸ attempt_failed first calls.first calls.rest error, ?_, ?_⟩
      · cases hresult : s.result <;> simp
      · simp [Event.traced, htrace]
  | cleanupNext call next rest hphase =>
      simp only [Shape, hphase] at hs
      obtain ⟨left, first, hleft, hcalls, htrace⟩ := hs
      refine ⟨left, first ++ [call], hleft, ?_, ?_⟩
      · rw [hcalls]
        simp [Calls.toList]
      · simp [Event.traced, htrace]
  | cleanedUp last hphase =>
      simp only [Shape, hphase] at hs
      obtain ⟨left, first, hleft, hcalls, htrace⟩ := hs
      refine ⟨left, _, s.result.isOk, true, hleft, attempt_succeeding _, by simp, ?_⟩
      rw [hcalls]
      simp [Event.traced, htrace, Calls.toList]
  | finish hphase =>
      simp only [Shape, hphase] at hs
      obtain ⟨left, cleanup, ok, cleaned, hleft, hcleanup, hok, htrace⟩ := hs
      have hword := Word.mk hleft hcleanup
      cases hreply : s.shutdownReply <;>
        simpa [Shape, Event.traced, htrace, hok] using hword

theorem shape {config : ActorConfig} {s : Actor ε} (h : Reachable config s) : Shape s := by
  refine h.induct ?_ ?_
  · intro now
    exact ⟨[], rfl, rfl, rfl⟩
  · intro s action s' _ hs hst
    exact shape_step hs hst

/-! ## Complete traces -/

/-- What is left so far can still go on to a word once `ShuttingDown` was published. -/
theorem wordPrefix_of_announced {log : List (Entry ε)} {ok : Bool}
    (h : ∃ left, Left left ok ∧ trace log = left ++ [.lifecycle .shuttingDown]) :
    WordPrefix (trace log) := by
  obtain ⟨left, hleft, htrace⟩ := h
  have hprefix := hleft.wordPrefix
  rw [← List.singleton_append, ← List.append_assoc, ← htrace] at hprefix
  exact hprefix.of_append

/-- Whatever the actor has done so far is the beginning of a word. -/
theorem wordPrefix {config : ActorConfig} {s : Actor ε} (h : Reachable config s) :
    WordPrefix (trace s.log) := by
  have hs := shape h
  unfold Shape at hs
  split at hs
  · next calls hphase =>
      obtain ⟨first, -, hcalls, htrace⟩ := hs
      have hrunning := running_start (attempt_succeeding (ε := ε) initializeTransport.toList)
      have hstarted := hrunning.left.wordPrefix.of_append
      rw [hcalls] at hstarted
      have hprefix : WordPrefix (trace s.log ++ .returned calls.first none (.ok ()) ::
          (succeeding calls.rest ++ [.lifecycle .running])) := by
        simpa [htrace, Calls.toList] using hstarted
      exact hprefix.of_append
  · exact hs.1.left.wordPrefix.of_append
  · exact hs.1.left.wordPrefix.of_append
  · next query hphase =>
      obtain ⟨before, hrunning, -, htrace⟩ := hs
      have hwritten := hrunning.left_item (.write query.command (.query query))
      have hprefix := hwritten.wordPrefix.of_append
      rw [← List.singleton_append, ← List.append_assoc, ← htrace] at hprefix
      exact hprefix.of_append
  · next command reply hphase =>
      obtain ⟨before, hrunning, -, htrace⟩ := hs
      have hwritten := hrunning.left_item (.write command (.send command reply))
      have hprefix := hwritten.wordPrefix.of_append
      rw [← List.singleton_append, ← List.append_assoc, ← htrace] at hprefix
      exact hprefix.of_append
  · exact Left.wordPrefix hs |>.of_append
  · exact wordPrefix_of_announced hs
  · exact wordPrefix_of_announced hs
  · next calls hphase =>
      obtain ⟨left, first, hleft, hcalls, htrace⟩ := hs
      have hcleaned := hleft.wordPrefix
      rw [hcalls] at hcleaned
      have hprefix : WordPrefix (trace s.log ++ .returned calls.first none (.ok ()) ::
          succeeding calls.rest) := by
        simpa [htrace, Calls.toList] using hcleaned
      exact hprefix.of_append
  · obtain ⟨left, cleanup, ok, cleaned, hleft, hcleanup, -, htrace⟩ := hs
    rw [htrace]
    exact ⟨_, .mk hleft hcleanup⟩
  · exact ⟨[], by rwa [List.append_nil]⟩
  · exact hs.left.wordPrefix.of_append

/-- **The grammar of transport calls and lifecycle states.** Whatever a run has done so far is the
    beginning of a word; and a run that has ended has left a whole word behind exactly if every
    deadline computed in it exists. -/
theorem trace_grammar (config : ActorConfig) :
    (∀ s : Actor ε, Reachable config s → WordPrefix (trace s.log)) ∧
    ∀ s : Actor ε, Reachable config s → s.Ended →
      (Word (trace s.log) ↔ DeadlinesFit config s) := by
  refine ⟨fun s h => wordPrefix h, fun s h hended => ?_⟩
  have hs := shape h
  constructor
  · intro hword query written hw
    cases fate_of_written h hw with
    | active hactive => exact hactive.fits
    | concluded hfits => exact hfits
    | overflowed hphase =>
        simp only [Shape, hphase] at hs
        exact absurd hword.shuttingDown hs.not_shuttingDown
  · intro hfit
    have hret := returned_of_deadlinesFit h hended hfit
    simpa only [Shape, hret] using hs

/-- With the largest timeout the run of a first query ends without cleanup and final state. -/
theorem unboundedTimeout_skips_cleanup :
    ∃ s, runFrom unboundedTimeout .zero firstQueryRun = some s ∧ s.Ended ∧
      ¬ Word (trace s.log) := by
  obtain ⟨s, hrun, hphase, hlog⟩ : ∃ s, runFrom unboundedTimeout .zero firstQueryRun = some s ∧
      s.phase = .panicked .deadlineOverflow ∧ .lifecycle .shuttingDown ∉ trace s.log :=
    ⟨_, rfl, rfl, by decide⟩
  exact ⟨s, hrun, .inr ⟨_, hphase⟩, fun hword => hlog hword.shuttingDown⟩

end Actor

end ChessnutMove.Tokio
