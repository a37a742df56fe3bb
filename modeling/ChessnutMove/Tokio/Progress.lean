import ChessnutMove.Tokio.Calls
import ChessnutMove.Tokio.Sessions

set_option autoImplicit false

/-! # Which callers hang

A call that is under way can move on by itself, or a call that holds a place in the request channel
can put its message there, or the task can move on, unless the task waits for the board: for a
transport call to return, or for a response to the active query whose deadline has not passed. Once
the task is gone, every call returns in two steps of its own at most, with one exception: a call
that was given its place before the task closed the channel and uses it only now never returns. -/

namespace ChessnutMove.Tokio

variable {ε : Type}

/-- The call holds a place in the request channel. -/
def Call.holdsPlace (call : Call) : Bool := call.stage = .reserved

namespace Runtime

/-- The action can be taken. -/
def Enabled (config : ActorConfig) (s : Runtime ε) (action : RuntimeAction ε) : Prop :=
  ∃ s', step config s action = some s'

/-- The steps of a call itself. -/
def ownActions (i : Nat) : List (RuntimeAction ε) :=
  [.sendMessage i, .reserve i, .sendReturned i, .receiveReply i]

/-- The steps the task takes without the board. -/
def taskActions : List (Action ε) := [.proceed, .receive, .deadlineElapsed]

/-- The task waits for the board. -/
inductive AwaitsBoard (config : ActorConfig) (s : Runtime ε) : Prop
  | call (call : TransportCall) (hawaited : s.actor.awaited = some call)
      (hmoves : ∀ result, Enabled config s (.actor (.callReturned result)))
  | response (query : PendingQuery) (hpending : s.actor.pendingQuery = some query)
      (hearly : s.actor.now.nanos < query.deadline.nanos)
      (hmoves : ∀ result, Enabled config s (.actor (.notification result)))

/-- The call at this index can move on, or a call that holds a place can put its message there, or
    the task can move on, or the task waits for the board. -/
def Moves (config : ActorConfig) (s : Runtime ε) (i : Nat) : Prop :=
  (∃ action ∈ ownActions i, Enabled config s action) ∨
    (∃ (k : Nat) (request : Request), s.calls[k]? = some ⟨request, .reserved⟩ ∧
      Enabled config s (.sendReturned k)) ∨
    (∃ a ∈ taskActions, Enabled config s (.actor a)) ∨ AwaitsBoard config s

section Step

variable {config : ActorConfig} {s s' : Runtime ε} {action : RuntimeAction ε}

/-! ## The channel and the handles -/

theorem capacity_eq {s : Actor ε} (h : Actor.Reachable config s) :
    s.requestRx.capacity = config.commandCapacity := by
  refine h.induct (P := fun s => s.requestRx.capacity = config.commandCapacity) (fun _ => rfl) ?_
  intro s action s' _ hs hst
  cases hst with
  | _ => exact hs

theorem senders_step {s s' : Actor ε} {a : Action ε} (hdrop : a ≠ .dropHandle)
    (h : Actor.Transition config s a s') : s.requestRx.senders ≤ s'.requestRx.senders := by
  cases h with
  | dropHandle => exact absurd rfl hdrop
  | cloneHandle => exact Nat.le_succ _
  | _ => exact Nat.le_refl _

theorem commandCapacity_of_reachable (h : Reachable config s) : 0 < config.commandCapacity :=
  h.induct (P := fun _ => 0 < config.commandCapacity) (fun _ _ hcapacity _ => hcapacity)
    fun _ _ _ _ hs _ => hs

theorem isBorrowed_iff :
    s.isBorrowed = true ↔ ∃ call ∈ s.calls, call.stage.isLive = true :=
  List.any_eq_true

theorem isBorrowed_of_getElem? {i : Nat} {call : Call} (hcall : s.calls[i]? = some call)
    (hlive : call.stage.isLive = true) : s.isBorrowed = true :=
  isBorrowed_iff.2 ⟨call, List.mem_of_getElem? hcall, hlive⟩

/-- While a call is under way there is a handle. -/
theorem senders_pos (h : Reachable config s) (hborrowed : s.isBorrowed = true) :
    0 < s.actor.requestRx.senders := by
  refine h.induct (P := fun s => s.isBorrowed = true → 0 < s.actor.requestRx.senders) ?_ ?_
    hborrowed
  · intro retained now _ _ hborrowed
    cases hborrowed
  · intro s action s' _ hs hst hborrowed
    cases hst with
    | actor action actor hallows hstep =>
        have hold : s.isBorrowed = true := hborrowed
        by_cases hdrop : action = .dropHandle
        · subst hdrop
          cases hstep with
          | dropHandle hsenders =>
              simp only [allows, hold, Bool.not_true, Bool.false_or, decide_eq_true_eq] at hallows
              show 0 < s.actor.requestRx.senders - 1
              omega
        · exact Nat.lt_of_lt_of_le (hs hold) (senders_step hdrop hstep)
    | call request hsenders => exact hsenders
    | admitted i request hcall | turnedAway i request error hcall | unsent i request hcall
    | late i request hcall | stranded i request hcall | answered i request reply value hcall
    | abandoned i request reply hcall | lost i request hcall =>
        exact hs (isBorrowed_of_getElem? hcall rfl)
    | dropCall i call hcall hdrop =>
        exact hs (isBorrowed_of_getElem? hcall (Bool.and_eq_true_iff.1 hdrop).1)
    | reserved i request actor hcall hopen hstep | enqueued i request actor hcall hlives hstep =>
        exact Nat.lt_of_lt_of_le (hs (isBorrowed_of_getElem? hcall rfl))
          (senders_step (by simp) hstep)
    | recv | abort | cancel => exact hs hborrowed

theorem countP_set {calls : List Call} {i : Nat} {call : Call} (p : Call → Bool)
    (hcall : calls[i]? = some call) (call' : Call) :
    (calls.set i call').countP p + (if p call then 1 else 0)
      = calls.countP p + (if p call' then 1 else 0) := by
  obtain ⟨hi, rfl⟩ := List.getElem?_eq_some_iff.1 hcall
  have hold := List.getElem_cons_eraseIdx_perm hi
  have hnew := List.set_perm_cons_eraseIdx hi call'
  rw [hnew.countP_eq, ← hold.countP_eq, List.countP_cons, List.countP_cons]
  omega

/-- As long as the task looks for messages, the places given are those that calls hold. -/
def Places (s : Runtime ε) : Prop :=
  s.isOver = false → s.actor.phase.receives = true →
    s.actor.requestRx.reserved = s.calls.countP Call.holdsPlace

theorem reserved_step {s s' : Actor ε} {a : Action ε} (hreserve : a ≠ .reserve)
    (henqueue : ∀ request, a ≠ .enqueue request) (h : Actor.Transition config s a s') :
    s'.requestRx.reserved = s.requestRx.reserved := by
  cases h with
  | reserve => exact absurd rfl hreserve
  | enqueue request => exact absurd rfl (henqueue request)
  | _ => rfl

/-- What still lives and looks for messages did so before. -/
theorem looked_before (hreach : Reachable config s) (h : Transition config s action s')
    (hlives : s'.isOver = false) (hreceives : s'.actor.phase.receives = true) :
    s.isOver = false ∧ s.actor.phase.receives = true := by
  constructor
  · refine Bool.eq_false_of_not_eq_true fun hover => ?_
    simp [isOver_step hreach hover h] at hlives
  · refine Bool.eq_true_of_not_eq_false fun hlast => ?_
    rcases actor_step h with heq | ⟨a, hstep, -⟩
    · simp [heq, hlast] at hreceives
    · simp [receives_step hlast hstep] at hreceives

/-- One call moves on, and the places of the channel change with it. -/
theorem places_set (hreach : Reachable config s) (hs : Places s)
    (h : Transition config s action s') {i : Nat} {call call' : Call}
    (hcall : s.calls[i]? = some call) (hcalls : s'.calls = s.calls.set i call')
    (hsame : s'.actor.requestRx.reserved + (if call.holdsPlace then 1 else 0)
      = s.actor.requestRx.reserved + (if call'.holdsPlace then 1 else 0)) : Places s' := by
  intro hlives hreceives
  obtain ⟨hlived, hreceived⟩ := looked_before hreach h hlives hreceives
  have hold := hs hlived hreceived
  have hset := countP_set Call.holdsPlace hcall call'
  rw [hcalls]
  omega

theorem places_step (hreach : Reachable config s) (hs : Places s)
    (h : Transition config s action s') : Places s' := by
  have hst := h
  cases h with
  | actor a actor hallows hstep =>
      intro hlives hreceives
      obtain ⟨hlived, hreceived⟩ := looked_before hreach hst hlives hreceives
      have hreserve : a ≠ .reserve := by
        rintro rfl
        cases hallows
      have hsame := reserved_step hreserve (ne_enqueue_of_allows hallows) hstep
      exact hsame.trans (hs hlived hreceived)
  | call request hsenders =>
      intro hlives hreceives
      rw [List.countP_append]
      exact hs hlives hreceives
  | admitted i request hcall | turnedAway i request error hcall | unsent i request hcall
  | answered i request reply value hcall | abandoned i request reply hcall
  | lost i request hcall =>
      exact places_set hreach hs hst hcall rfl rfl
  | dropCall i call hcall hdrop =>
      have hplace : call.holdsPlace = false := by simpa [Call.holdsPlace] using
        (Bool.and_eq_true_iff.1 hdrop).2
      exact places_set hreach hs hst hcall rfl (by rw [hplace]; rfl)
  | reserved i request actor hcall hopen hstep =>
      obtain ⟨hreserve, rfl⟩ := reserve_eq hstep
      exact places_set hreach hs hst hcall rfl rfl
  | enqueued i request actor hcall hlives hstep =>
      refine places_set hreach hs hst hcall rfl ?_
      cases hstep with
      | enqueue request hreceives hpush => exact Nat.sub_add_cancel hpush.2
  | late i request hcall hlives hlast =>
      intro _ hreceives
      exact absurd hreceives (by simp [hlast])
  | stranded i request hcall hover =>
      intro hlives
      have hover : s.isOver = false := hlives
      simp_all
  | recv | abort => exact hs
  | cancel hrequested hawait hcancelled =>
      intro hlives
      cases hlives

theorem places (h : Reachable config s) : Places s := by
  refine h.induct (P := Places) ?_ ?_
  · intro retained now _ _ _ _
    rfl
  · intro s action s' hreach hs hst
    exact places_step hreach hs hst

/-! ## The task -/

theorem enabled_actor {a : Action ε} (hallows : s.allows a = true)
    (h : ∃ actor, Actor.step config s.actor a = some actor) : Enabled config s (.actor a) := by
  obtain ⟨actor, hstep⟩ := h
  exact ⟨{ s with actor }, by simp only [step, hallows, if_true, hstep, Option.map_some]⟩

theorem exists_callReturned {s : Actor ε} {call : TransportCall} (h : s.awaited = some call)
    (result : Except ε Unit) : ∃ s', Actor.step config s (.callReturned result) = some s' := by
  cases hphase : s.phase with
  | initializing calls | cleaningUp calls =>
      obtain ⟨first, rest⟩ := calls
      simp only [Actor.step, Actor.callReturned, hphase]
      cases result <;> cases rest <;> exact ⟨_, rfl⟩
  | startingQuery query | sending command reply =>
      simp only [Actor.step, Actor.callReturned, hphase]
      exact ⟨_, rfl⟩
  | _ => simp [Actor.awaited, hphase] at h

/-- Something waits for the task. -/
def Awaited (s : Runtime ε) : Prop :=
  s.actor.requestRx.queue ≠ [] ∨ ∃ reply, reply ∈ s.actor.replySenders

/-- A task that something waits for in `select!` moves on, or waits for the board. -/
theorem task_moves (h : Reachable config s) (hover : s.isOver = false)
    (hwaits : s.actor.phase = .selecting → s.Awaited) :
    (∃ a ∈ taskActions, Enabled config s (.actor a)) ∨ AwaitsBoard config s := by
  obtain ⟨hcancelled, hended⟩ := Bool.or_eq_false_iff.1 hover
  have hslots := Actor.slots h.actor
  have htask : ∀ a ∈ taskActions, (∃ actor, Actor.step config s.actor a = some actor) →
      ∃ a ∈ taskActions, Enabled config s (.actor a) := by
    intro a ha hstep
    refine ⟨a, ha, enabled_actor ?_ hstep⟩
    simp only [taskActions, List.mem_cons, List.not_mem_nil, or_false] at ha
    rcases ha with rfl | rfl | rfl <;> simp [allows, hcancelled]
  have hcall : ∀ {call : TransportCall}, s.actor.awaited = some call → AwaitsBoard config s := by
    intro call hawaited
    refine .call call hawaited fun result => ?_
    exact enabled_actor (by simp [allows, hcancelled]) (exists_callReturned hawaited result)
  unfold Actor.Slots at hslots
  cases hphase : s.actor.phase with
  | initializing calls | startingQuery query | sending command reply | cleaningUp calls =>
      exact .inr (hcall (by simp only [Actor.awaited, hphase]; rfl))
  | loopTop | leaving | closing | rejecting | finishing =>
      refine .inl (htask .proceed (by simp [taskActions]) ?_)
      simp only [Actor.step, Actor.proceed, hphase]
      exact ⟨_, rfl⟩
  | returned | panicked panic => simp [Actor.hasEnded, hphase] at hended
  | selecting =>
      rw [hphase] at hslots
      cases hqueue : s.actor.requestRx.queue with
      | cons message waiting =>
          refine .inl (htask .receive (by simp [taskActions]) ?_)
          simp only [Actor.step, hphase, if_true, Actor.receive, hqueue]
          exact ⟨_, rfl⟩
      | nil =>
          obtain ⟨query, hpending⟩ : ∃ query, s.actor.pendingQuery = some query := by
            cases hpending : s.actor.pendingQuery with
            | some query => exact ⟨query, rfl⟩
            | none =>
                exfalso
                rcases hwaits hphase with hwaits | ⟨reply, hmem⟩
                · exact hwaits hqueue
                · simp [Actor.replySenders, hphase, Phase.writes, hpending, hslots.1 hpending,
                    hslots.2, hqueue] at hmem
          by_cases hdeadline : query.deadline.nanos ≤ s.actor.now.nanos
          · refine .inl (htask .deadlineElapsed (by simp [taskActions]) ?_)
            simp only [Actor.step, hphase, if_true, Actor.deadlineElapsed, hpending, hdeadline]
            exact ⟨_, rfl⟩
          · refine .inr (.response query hpending (Nat.lt_of_not_le hdeadline) fun result => ?_)
            refine enabled_actor (by simp [allows, hcancelled]) ?_
            simp only [Actor.step, hphase, if_true]
            exact ⟨_, rfl⟩

/-! ## The calls -/

/-- While the channel is open the task looks for messages. -/
theorem receives_of_open {s : Actor ε} (hslots : Actor.Slots s)
    (hopen : s.requestRx.closed = false) : s.phase.receives = true := by
  unfold Actor.Slots at hslots
  cases hphase : s.phase <;> simp_all [Phase.receives]

theorem replySenders_of_ended {s : Actor ε} (hslots : Actor.Slots s) (hended : s.hasEnded = true) :
    s.replySenders = [] := by
  unfold Actor.hasEnded at hended
  unfold Actor.Slots at hslots
  split at hended <;> simp_all [Actor.replySenders, Phase.writes]

theorem step_sendMessage {i : Nat} {request : Request}
    (hcall : s.calls[i]? = some ⟨request, .called⟩) :
    step config s (.sendMessage i) = some (s.sendMessage i request) := by
  simp only [step, hcall]

theorem step_reserve {i : Nat} {request : Request}
    (hcall : s.calls[i]? = some ⟨request, .sending⟩) :
    step config s (.reserve i) = s.reserve i request := by
  simp only [step, hcall]

theorem step_sendReturned {i : Nat} {request : Request}
    (hcall : s.calls[i]? = some ⟨request, .reserved⟩) :
    step config s (.sendReturned i) = s.sendReturned i request := by
  simp only [step, hcall]

theorem step_receiveReply {i : Nat} {request : Request} {reply : ReplyId}
    (hcall : s.calls[i]? = some ⟨request, .awaiting reply⟩) :
    step config s (.receiveReply i) = s.receiveReply i request reply := by
  simp only [step, hcall]

theorem step_receiveDropped {i : Nat} {request : Request}
    (hcall : s.calls[i]? = some ⟨request, .late⟩) :
    step config s (.receiveReply i) = s.receiveDropped i request := by
  simp only [step, hcall]

/-- The lifecycle check admits the call, or the call returns. -/
theorem sendMessage_cases (s : Runtime ε) (i : Nat) (request : Request) :
    s.sendMessage i request = s.setStage i request .sending ∨
      ∃ error, s.sendMessage i request = s.complete i request none (.error error) := by
  unfold sendMessage
  split
  · exact .inl rfl
  · exact .inl rfl
  · exact .inr ⟨_, rfl⟩
  · exact .inr ⟨_, rfl⟩
  · exact .inr ⟨_, rfl⟩

/-- A `send` waits for nothing but a place in the channel: there are messages in it, or calls that
    have a place each. -/
theorem reserve_or_full (h : Reachable config s) {i : Nat} {request : Request}
    (hcall : s.calls[i]? = some ⟨request, .sending⟩) :
    (∃ s', s.reserve i request = some s') ∨
      s.requestClosed = false ∧ (s.actor.requestRx.queue ≠ [] ∨
        ∃ (k : Nat) (request : Request), s.calls[k]? = some ⟨request, .reserved⟩) := by
  unfold reserve
  cases hclosed : s.requestClosed with
  | true => exact .inl ⟨_, rfl⟩
  | false =>
      rw [if_neg (by simp)]
      have hopen := (Bool.or_eq_false_iff.1 hclosed).2
      have hsenders := senders_pos h (isBorrowed_of_getElem? hcall rfl)
      by_cases hroom : s.actor.requestRx.queue.length + s.actor.requestRx.reserved
          < s.actor.requestRx.capacity
      · have hreserve : s.actor.requestRx.CanReserve := ⟨hopen, hsenders, hroom⟩
        exact .inl ⟨_, by rw [Actor.reserve, dif_pos hreserve, Option.map_some]⟩
      refine .inr ⟨rfl, or_iff_not_imp_left.2 fun hempty => ?_⟩
      rw [not_not] at hempty
      rw [hempty, capacity_eq h.actor] at hroom
      have hcapacity := commandCapacity_of_reachable h
      have hplaces : s.actor.requestRx.reserved = s.calls.countP Call.holdsPlace := by
        refine places h ?_ ?_
        · refine Bool.eq_false_of_not_eq_true fun hover => ?_
          simp [requestClosed_of_isOver h hover] at hclosed
        · exact receives_of_open (Actor.slots h.actor) hopen
      obtain ⟨call, hmem, hplace⟩ := List.countP_pos_iff.1 (hplaces ▸ show
        0 < s.actor.requestRx.reserved by rw [List.length_nil] at hroom; omega)
      obtain ⟨k, hk⟩ := List.mem_iff_getElem?.1 hmem
      obtain ⟨request', stage⟩ := call
      obtain rfl : stage = .reserved := by simpa [Call.holdsPlace] using hplace
      exact ⟨k, request', hk⟩

/-- A call that holds a place can always use it. -/
theorem sendReturned_of_reserved (h : Reachable config s) {i : Nat} {request : Request}
    (hcall : s.calls[i]? = some ⟨request, .reserved⟩) :
    ∃ s', s.sendReturned i request = some s' := by
  unfold sendReturned
  cases hover : s.isOver with
  | true => exact ⟨_, rfl⟩
  | false =>
      cases hreceives : s.actor.phase.receives with
      | false => exact ⟨_, rfl⟩
      | true =>
          have hplaces := places h hover hreceives
          have hheld : 0 < s.calls.countP Call.holdsPlace :=
            List.countP_pos_iff.2 ⟨_, List.mem_of_getElem? hcall, by simp [Call.holdsPlace]⟩
          have hpush : s.actor.requestRx.CanPush :=
            ⟨senders_pos h (isBorrowed_of_getElem? hcall rfl), hplaces ▸ hheld⟩
          simp only [Bool.false_eq_true, if_false, if_true, Actor.enqueue, dif_pos,
            hreceives, hpush, and_self, Option.map_some]
          exact ⟨_, rfl⟩

/-- A reply is there, or will never come, or the task still owes it. -/
theorem receiveReply_or_held (s : Runtime ε) (i : Nat) (request : Request) (reply : ReplyId) :
    (∃ s', s.receiveReply i request reply = some s') ∨
      s.cancelled = false ∧ reply ∈ s.actor.replySenders := by
  unfold receiveReply
  split
  · exact .inl ⟨_, rfl⟩
  · split
    · exact .inl ⟨_, rfl⟩
    · next hheld =>
        rw [not_or, not_not] at hheld
        exact .inr ⟨Bool.eq_false_of_not_eq_true hheld.1, hheld.2⟩

/-- Once the task is gone, a call that waits returns. -/
theorem completes_waiting (h : Reachable config s) (hover : s.isOver = true) {i : Nat}
    {request : Request} {stage : Stage} (hcall : s.calls[i]? = some ⟨request, stage⟩)
    (hwaits : stage = .sending ∨ stage = .late ∨ ∃ reply, stage = .awaiting reply) :
    ∃ action ∈ ownActions i, ∃ s' reply result, step config s action = some s' ∧
      s'.calls[i]? = some ⟨request, .completed reply result⟩ := by
  have hset : ∀ reply result, (s.complete i request reply result).calls[i]?
      = some ⟨request, .completed reply result⟩ := by
    intro reply result
    rw [calls_complete, List.getElem?_set_self (List.getElem?_eq_some_iff.1 hcall).1]
  rcases hwaits with rfl | rfl | ⟨reply, rfl⟩
  · refine ⟨.reserve i, by simp [ownActions], _, _, _, ?_, hset none (.error .actorStopped)⟩
    rw [step_reserve hcall, reserve, if_pos (requestClosed_of_isOver h hover)]
  · refine ⟨.receiveReply i, by simp [ownActions], _, _, _, ?_, hset none (.error .actorStopped)⟩
    rw [step_receiveDropped hcall, receiveDropped, if_pos hover]
  · refine ⟨.receiveReply i, by simp [ownActions], ?_⟩
    rw [step_receiveReply hcall, receiveReply]
    cases s.actor.sentOn reply with
    | some value => exact ⟨_, _, _, rfl, hset (some reply) value⟩
    | none =>
        have hdropped : s.cancelled = true ∨ reply ∉ s.actor.replySenders := by
          rcases Bool.or_eq_true_iff.1 hover with hcancelled | hended
          · exact .inl hcancelled
          · right
            simp [replySenders_of_ended (Actor.slots h.actor) hended]
        exact ⟨_, _, _, if_pos hdropped, hset (some reply) (.error .actorStopped)⟩

theorem moves_of_reserved (h : Reachable config s) {i : Nat} {request : Request}
    (hcall : s.calls[i]? = some ⟨request, .reserved⟩) : Enabled config s (.sendReturned i) := by
  obtain ⟨s', hs'⟩ := sendReturned_of_reserved h hcall
  exact ⟨s', (step_sendReturned hcall).trans hs'⟩

/-- Something moves for every call that is under way and not stranded. -/
theorem moves_of_isLive (h : Reachable config s) {i : Nat} {call : Call}
    (hcall : s.calls[i]? = some call) (hlive : call.stage.isLive = true)
    (hstage : call.stage ≠ .stranded) : Moves config s i := by
  obtain ⟨request, stage⟩ := call
  cases stage with
  | called =>
      exact .inl ⟨.sendMessage i, by simp [ownActions], _, step_sendMessage hcall⟩
  | sending =>
      rcases reserve_or_full h hcall with ⟨s', hs'⟩ | ⟨hopen, hfull | ⟨k, request', hplace⟩⟩
      · exact .inl ⟨.reserve i, by simp [ownActions], s', (step_reserve hcall).trans hs'⟩
      · refine .inr (.inr (task_moves h ?_ fun _ => .inl hfull))
        cases hover : s.isOver with
        | false => rfl
        | true => exact absurd (requestClosed_of_isOver h hover) (by simp [hopen])
      · exact .inr (.inl ⟨k, request', hplace, moves_of_reserved h hplace⟩)
  | reserved => exact .inl ⟨.sendReturned i, by simp [ownActions], moves_of_reserved h hcall⟩
  | awaiting reply =>
      rcases receiveReply_or_held s i request reply with ⟨s', hs'⟩ | ⟨hcancelled, hheld⟩
      · exact .inl
          ⟨.receiveReply i, by simp [ownActions], s', (step_receiveReply hcall).trans hs'⟩
      · refine .inr (.inr (task_moves h ?_ fun _ => .inr ⟨reply, hheld⟩))
        cases hended : s.actor.hasEnded with
        | false => rw [isOver, hcancelled, hended, Bool.or_false]
        | true => simp [replySenders_of_ended (Actor.slots h.actor) hended] at hheld
  | late =>
      cases hover : s.isOver with
      | true =>
          obtain ⟨action, hown, s', -, -, hstep, -⟩ :=
            completes_waiting h hover hcall (.inr (.inl rfl))
          exact .inl ⟨action, hown, s', hstep⟩
      | false =>
          -- the task is on its way from its last look into the channel to its end
          have hlast := ((unheard h) _ (List.mem_of_getElem? hcall)).1 rfl
          refine .inr (.inr (task_moves h hover fun hphase => ?_))
          simp [hphase, Phase.receives] at hlast
  | stranded => exact absurd rfl hstage
  | completed | dropped => cases hlive

/-- Once the task is gone, a call returns by its own steps, two of them at most, unless it holds a
    place in the channel or is stranded there. -/
theorem completes_of_isLive (h : Reachable config s) (hover : s.isOver = true) {i : Nat}
    {call : Call} (hcall : s.calls[i]? = some call) (hlive : call.stage.isLive = true)
    (hplace : call.stage ≠ .reserved) (hstage : call.stage ≠ .stranded) :
    ∃ actions s' reply result, actions.length ≤ 2 ∧ (∀ action ∈ actions, action ∈ ownActions i) ∧
      StepMachine.run (step config) s actions = some s' ∧
        s'.calls[i]? = some ⟨call.request, .completed reply result⟩ := by
  have hwaiting : ∀ {request stage}, s.calls[i]? = some ⟨request, stage⟩ →
      (stage = .sending ∨ stage = .late ∨ ∃ reply, stage = .awaiting reply) →
      ∃ actions s' reply result, actions.length ≤ 2 ∧
        (∀ action ∈ actions, action ∈ ownActions i) ∧
          StepMachine.run (step config) s actions = some s' ∧
            s'.calls[i]? = some ⟨request, .completed reply result⟩ := by
    intro request stage hcall hwaits
    obtain ⟨action, hown, s', reply, result, hstep, hdone⟩ :=
      completes_waiting h hover hcall hwaits
    exact ⟨[action], s', reply, result, by simp, by simpa using hown,
      StepMachine.run_cons_eq_some.2 ⟨s', hstep, rfl⟩, hdone⟩
  obtain ⟨request, stage⟩ := call
  cases stage with
  | called =>
      have hmoved : step config s (.sendMessage i) = _ := step_sendMessage hcall
      have hself : ∀ stage, (s.calls.set i ⟨request, stage⟩)[i]? = some ⟨request, stage⟩ :=
        fun stage => List.getElem?_set_self (List.getElem?_eq_some_iff.1 hcall).1
      rcases sendMessage_cases s i request with heq | ⟨error, heq⟩
      · rw [heq] at hmoved
        obtain ⟨action, hown, s', reply, result, hstep, hdone⟩ :=
          completes_waiting (h.next hmoved) hover (hself .sending) (.inl rfl)
        refine ⟨[.sendMessage i, action], s', reply, result, by simp, ?_, ?_, hdone⟩
        · simpa [ownActions] using hown
        · exact StepMachine.run_cons_eq_some.2
            ⟨_, hmoved, StepMachine.run_cons_eq_some.2 ⟨s', hstep, rfl⟩⟩
      · rw [heq] at hmoved
        exact ⟨[.sendMessage i], _, none, .error error, by simp, by simp [ownActions],
          StepMachine.run_cons_eq_some.2 ⟨_, hmoved, rfl⟩, hself _⟩
  | sending => exact hwaiting hcall (.inl rfl)
  | late => exact hwaiting hcall (.inr (.inl rfl))
  | awaiting reply => exact hwaiting hcall (.inr (.inr ⟨reply, rfl⟩))
  | reserved => exact absurd rfl hplace
  | stranded => exact absurd rfl hstage
  | completed | dropped => cases hlive

/-! ## Stranded calls -/

/-- The message of the call is in a channel that nobody reads, or can only get there. -/
def Strands (s : Runtime ε) (i : Nat) (request : Request) : Prop :=
  ∃ stage, s.calls[i]? = some ⟨request, stage⟩ ∧
    (stage = .stranded ∨ stage = .reserved ∧ s.isOver = true ∨ ∃ reply, stage = .dropped reply)

theorem strands_step (hreach : Reachable config s) {i : Nat} {request : Request}
    (hs : Strands s i request) (h : Transition config s action s') : Strands s' i request := by
  obtain ⟨stage, hcall, hstage⟩ := hs
  -- another call moves on, or none does
  have hkeep : s'.calls[i]? = s.calls[i]? → Strands s' i request := by
    intro hsame
    refine ⟨stage, hsame.trans hcall, hstage.imp id (Or.imp ?_ id)⟩
    exact fun hplace => ⟨hplace.1, isOver_step hreach hplace.2 h⟩
  have hset : ∀ {k : Nat} {call : Call}, s'.calls = s.calls.set k call → k ≠ i →
      Strands s' i request := by
    intro k call hcalls hne
    exact hkeep (by rw [hcalls, List.getElem?_set_ne hne])
  have hother : ∀ {k : Nat} {call : Call}, s.calls[k]? = some call → call.stage ≠ stage →
      k ≠ i := by
    rintro k call hget hne rfl
    exact hne (congrArg Call.stage (Option.some.inj (hget.symm.trans hcall)))
  have hself : ∀ {call : Call}, (s.calls.set i call)[i]? = some call :=
    fun {call} => List.getElem?_set_self (List.getElem?_eq_some_iff.1 hcall).1
  cases h with
  | call => exact hkeep (List.getElem?_append_left (List.getElem?_eq_some_iff.1 hcall).1)
  | actor | recv | abort | cancel => exact hkeep rfl
  | admitted k request' hget | turnedAway k request' error hget | unsent k request' hget
  | reserved k request' actor hget | answered k request' reply value hget
  | abandoned k request' reply hget | lost k request' hget =>
      refine hset rfl (hother hget ?_)
      rcases hstage with rfl | ⟨rfl, -⟩ | ⟨reply, rfl⟩ <;> simp
  | enqueued k request' actor hget hlives | late k request' hget hlives =>
      refine hset rfl (hother hget ?_)
      rcases hstage with rfl | ⟨rfl, hover⟩ | ⟨reply, rfl⟩ <;> simp_all
  | stranded k request' hget hover =>
      by_cases hk : k = i
      · subst hk
        obtain ⟨rfl, -⟩ := Call.mk.inj (Option.some.inj (hget.symm.trans hcall))
        exact ⟨.stranded, hself, .inl rfl⟩
      · exact hset rfl hk
  | dropCall k call hget hdrop =>
      by_cases hk : k = i
      · subst hk
        obtain rfl := Option.some.inj (hget.symm.trans hcall)
        exact ⟨_, hself, .inr (.inr ⟨_, rfl⟩)⟩
      · exact hset rfl hk

/-- A stranded call never returns. -/
theorem hangs_of_strands (h : Reachable config s) {i : Nat} {request : Request}
    (hs : Strands s i request) {schedule : List (RuntimeAction ε)}
    (hrun : StepMachine.run (step config) s schedule = some s') (reply : Option ReplyId)
    (result : Reply) : s'.calls[i]? ≠ some ⟨request, .completed reply result⟩ := by
  have hboth : Reachable config s' ∧ Strands s' i request := by
    refine StepMachine.run_preserves (P := fun t => Reachable config t ∧ Strands t i request) ?_
      ⟨h, hs⟩ hrun
    rintro t a t' ⟨ht, hstrands⟩ hst
    exact ⟨ht.next hst, strands_step ht hstrands (transition_of_step hst)⟩
  obtain ⟨stage, hcall, hstage⟩ := hboth.2
  rw [hcall]
  rcases hstage with rfl | ⟨rfl, -⟩ | ⟨reply, rfl⟩ <;> simp

/-- Whether a call that is under way comes to its end. -/
structure Proceeds (config : ActorConfig) (s : Runtime ε) (i : Nat) (call : Call) : Prop where
  /-- Unless the call is stranded, it can move on, or a call that holds a place can, or the task
      can, or the task waits for the board. -/
  moves : call.stage ≠ .stranded → Moves config s i
  /-- Once the task is gone, the call returns by its own steps, two of them at most, unless it holds
      a place in the channel or is stranded there. -/
  completes : s.isOver = true → call.stage ≠ .reserved → call.stage ≠ .stranded →
    ∃ actions s' reply result, actions.length ≤ 2 ∧ (∀ action ∈ actions, action ∈ ownActions i) ∧
      StepMachine.run (step config) s actions = some s' ∧
        s'.calls[i]? = some ⟨call.request, .completed reply result⟩
  /-- Then it never returns, against the documentation of every method. -/
  hangs : call.stage = .stranded ∨ call.stage = .reserved ∧ s.isOver = true →
    ∀ schedule s', StepMachine.run (step config) s schedule = some s' →
      ∀ reply result, s'.calls[i]? ≠ some ⟨call.request, .completed reply result⟩

/-- **No caller hangs**, but for one whose `send` was given a place before the channel closed and
    uses it when the task is gone. -/
theorem no_caller_hangs_unless_stranded (h : Reachable config s) {i : Nat} {call : Call}
    (hcall : s.calls[i]? = some call) (hlive : call.stage.isLive = true) :
    Proceeds config s i call := by
  refine ⟨moves_of_isLive h hcall hlive, fun hover => completes_of_isLive h hover hcall hlive, ?_⟩
  intro hstage schedule s' hrun
  exact hangs_of_strands h ⟨call.stage, hcall, hstage.imp id .inl⟩ hrun

/-- The first write is under way, one caller waits for its result, one for room in the channel. -/
def waitingRun : List (RuntimeAction Unit) :=
  [.actor (.callReturned (.ok ())), .actor (.callReturned (.ok ())),
    .actor (.callReturned (.ok ())), .actor .proceed, .call (.send Command.stopAutoMove),
    .sendMessage 0, .reserve 0, .sendReturned 0, .actor .receive, .call .batteryStatus,
    .sendMessage 1, .reserve 1, .sendReturned 1, .call .pieceStatus, .sendMessage 2]

/-- A command is given its place in the channel, the task shuts down, and `shutdown` returns before
    the command is put there. -/
def strandedRun : List (RuntimeAction Unit) :=
  [.actor (.callReturned (.ok ())), .actor (.callReturned (.ok ())),
    .actor (.callReturned (.ok ())), .actor .proceed, .call (.send Command.stopAutoMove),
    .sendMessage 0, .reserve 0, .call .shutdown, .sendMessage 1, .reserve 1, .sendReturned 1,
    .actor .receive, .actor .proceed, .actor .proceed, .actor .proceed,
    .actor (.callReturned (.ok ())), .actor (.callReturned (.ok ())),
    .actor (.callReturned (.ok ())), .actor .proceed, .receiveReply 1, .sendReturned 0]

/-- After an `Ok` of `shutdown` and of the task, the caller of the command hangs. -/
theorem strandedRun_proceeds :
    ∃ s, runFrom ActorConfig.default 64 .zero strandedRun = some s ∧
      s.join = some (.ok (.ok ())) ∧
      s.calls[1]? = some ⟨.shutdown, .completed (some 0) (.ok .done)⟩ ∧
      s.calls[0]? = some ⟨.send Command.stopAutoMove, .stranded⟩ ∧
      Proceeds ActorConfig.default s 0 ⟨.send Command.stopAutoMove, .stranded⟩ := by
  have hrun : runFrom ActorConfig.default 64 .zero strandedRun = some _ := rfl
  refine ⟨_, hrun, rfl, rfl, rfl, ?_⟩
  have hreach := Reachable.of_runFrom (.allocating (2 ^ 64 - 1) 1024) (by decide) (by decide) hrun
  have hproceeds := no_caller_hangs_unless_stranded (i := 0) hreach rfl rfl
  exact hproceeds

end Step

end Runtime

end ChessnutMove.Tokio
