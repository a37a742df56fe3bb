import ChessnutMove.Transport.Blocking
import ChessnutMove.Transport.Recording

set_option autoImplicit false

/-! # Delivery

A session returns the outcome of every notification once and in order. The transport is any that
makes a given list of exchanges; the list of notifications is cut into what each `next_event` call
consumes, a run of acknowledgements and the one other notification that ends it. -/

namespace ChessnutMove

variable {σ ε : Type}

/-! ## Exchanges in sequence -/

/-- Called in this order, the transport makes these exchanges and takes the session from one state
    to the other. -/
def Answers (t : Transport σ ε) : List (Exchange ε) → BoardState σ → BoardState σ → Prop
  | [], board, board' => board = board'
  | .performed call result :: exchanges, board, board' =>
      ∃ next, board.perform t call = (result, next) ∧ Answers t exchanges next board'
  | .received result :: exchanges, board, board' =>
      ∃ next, board.receive t = (result, next) ∧ Answers t exchanges next board'

section Answers

variable {t : Transport σ ε} {board board' : BoardState σ}

theorem answers_append {exchanges exchanges' : List (Exchange ε)} :
    Answers t (exchanges ++ exchanges') board board' ↔
      ∃ next, Answers t exchanges board next ∧ Answers t exchanges' next board' := by
  induction exchanges generalizing board with
  | nil =>
      constructor
      · exact fun h => ⟨board, rfl, h⟩
      · rintro ⟨next, rfl, h⟩
        exact h
  | cons exchange exchanges ih =>
      cases exchange <;>
      · simp only [List.cons_append, Answers, ih]
        constructor
        · rintro ⟨next, hnext, last, hlast, hrest⟩
          exact ⟨last, ⟨next, hnext, hlast⟩, hrest⟩
        · rintro ⟨last, ⟨next, hnext, hlast⟩, hrest⟩
          exact ⟨next, hnext, last, hlast, hrest⟩

/-- The record lists the exchanges. -/
theorem answers_recorded {exchanges : List (Exchange ε)} (h : Answers t exchanges board board')
    (record : List (Exchange ε)) :
    Answers (recorded t) exchanges (board.withRecord record)
      (board'.withRecord (record ++ exchanges)) := by
  induction exchanges generalizing board record with
  | nil =>
      obtain rfl : board = board' := h
      rw [List.append_nil]
      rfl
  | cons exchange exchanges ih =>
      cases exchange with
      | performed call result =>
          obtain ⟨next, hnext, hrest⟩ := h
          have hrecord := ih hrest (record ++ [.performed call result])
          rw [List.append_assoc] at hrecord
          exact ⟨_, by rw [perform_recorded, hnext], hrecord⟩
      | received result =>
          obtain ⟨next, hnext, hrest⟩ := h
          have hrecord := ih hrest (record ++ [.received result])
          rw [List.append_assoc] at hrecord
          exact ⟨_, by rw [receive_recorded, hnext], hrecord⟩

end Answers

/-! ## What one call consumes -/

/-- The notifications that successive `next_event` calls consume, and the acknowledgements after the
    last one that is observable. -/
structure Rounds where
  complete : List (List Notification)
  rest : List Notification
  deriving DecidableEq

/-- Cuts a list of notifications after every observable one. -/
def rounds : List Notification → Rounds
  | [] => ⟨[], []⟩
  | notification :: notifications =>
      let ⟨complete, rest⟩ := rounds notifications
      match observe notification, complete with
      | some _, complete => ⟨[notification] :: complete, rest⟩
      | none, [] => ⟨[], notification :: rest⟩
      | none, first :: complete => ⟨(notification :: first) :: complete, rest⟩

/-- A maximal run of acknowledgements, and then the notification that makes the value observable. -/
def Consumes (round : List Notification) (value : Except DecodeNotificationError BoardEvent) :
    Prop :=
  ∃ acknowledgements last, round = acknowledgements ++ [last] ∧
    (∀ notification ∈ acknowledgements, observe notification = none) ∧ observe last = some value

/-- How `rounds` cuts a list, notification by notification. -/
inductive Cuts : List Notification → List (List Notification) → List Notification → Prop
  | nil : Cuts [] [] []
  | last {notification : Notification} {value : Except DecodeNotificationError BoardEvent}
      {notifications rest : List Notification} {complete : List (List Notification)}
      (hobserve : observe notification = some value) (h : Cuts notifications complete rest) :
      Cuts (notification :: notifications) ([notification] :: complete) rest
  | trailing {notification : Notification} {notifications rest : List Notification}
      (hobserve : observe notification = none) (h : Cuts notifications [] rest) :
      Cuts (notification :: notifications) [] (notification :: rest)
  | acknowledgement {notification : Notification} {notifications first rest : List Notification}
      {complete : List (List Notification)} (hobserve : observe notification = none)
      (h : Cuts notifications (first :: complete) rest) :
      Cuts (notification :: notifications) ((notification :: first) :: complete) rest

theorem cuts_rounds (notifications : List Notification) :
    Cuts notifications (rounds notifications).complete (rounds notifications).rest := by
  induction notifications with
  | nil => exact .nil
  | cons notification notifications ih =>
      rw [rounds]
      generalize rounds notifications = tail at ih ⊢
      obtain ⟨complete, rest⟩ := tail
      cases hobserve : observe notification with
      | some value => exact .last hobserve ih
      | none =>
          cases complete with
          | nil => exact .trailing hobserve ih
          | cons first complete => exact .acknowledgement hobserve ih

section Cuts

variable {notifications rest : List Notification} {complete : List (List Notification)}

theorem Cuts.flatten_eq (h : Cuts notifications complete rest) :
    complete.flatten ++ rest = notifications := by
  induction h with
  | nil => rfl
  | last hobserve h ih =>
      rw [← ih]
      rfl
  | trailing hobserve h ih =>
      rw [← ih]
      rfl
  | acknowledgement hobserve h ih =>
      rw [← ih]
      rfl

theorem Cuts.observe_of_mem (h : Cuts notifications complete rest) :
    ∀ notification ∈ rest, observe notification = none := by
  induction h with
  | nil => simp
  | last hobserve h ih => exact ih
  | trailing hobserve h ih => exact List.forall_mem_cons.2 ⟨hobserve, ih⟩
  | acknowledgement hobserve h ih => exact ih

/-- Every round ends in the next value that the notifications make observable. -/
theorem Cuts.consumes (h : Cuts notifications complete rest) :
    List.Forall₂ Consumes complete (notifications.filterMap observe) := by
  induction h with
  | nil => exact .nil
  | last hobserve h ih =>
      rw [List.filterMap_cons_some hobserve]
      exact .cons ⟨[], _, rfl, by simp, hobserve⟩ ih
  | trailing hobserve h ih =>
      rw [List.filterMap_cons_none hobserve]
      exact ih
  | @acknowledgement notification notifications first rest complete hobserve h ih =>
      rw [List.filterMap_cons_none hobserve]
      generalize notifications.filterMap observe = values at ih ⊢
      cases ih with
      | cons hfirst htail =>
          obtain ⟨acknowledgements, last, rfl, hacks, hlast⟩ := hfirst
          refine .cons ⟨notification :: acknowledgements, last, rfl, ?_, hlast⟩ htail
          exact List.forall_mem_cons.2 ⟨hobserve, hacks⟩

end Cuts

/-! ## Turns -/

/-- Sends before every one of the lists: what `f` makes of the commands precedes the list. -/
def interleave {α : Type} (f : Command → α) : (Nat → List Command) → List (List α) → List (List α)
  | _, [] => []
  | sends, own :: rest => ((sends 0).map f ++ own) :: interleave f (fun i => sends (i + 1)) rest

/-- The exchange of a successful `send`. -/
def wrote (command : Command) : Exchange ε := .performed (.writeCommand command) (.ok ())

/-- The exchanges of a `next_event` call that consumes these notifications. -/
def consumed (notifications : List Notification) : List (Exchange ε) :=
  notifications.map fun notification => .received (.ok notification)

/-- The exchanges of the `next_event` calls on a transport that returns these notifications and then
    fails. -/
def deliveries (notifications : List Notification) (error : ε) : List (List (Exchange ε)) :=
  (rounds notifications).complete.map consumed ++
    [consumed (rounds notifications).rest ++ [.received (.error error)]]

/-- The results of these calls. -/
def outcomes (notifications : List Notification) (error : ε) : List (SessionResult ε) :=
  (notifications.filterMap observe).map (fun value => (value.mapError .decode).map .event) ++
    [.error (.transport error)]

theorem take_interleave {α : Type} (f : Command → α) (sends : Nat → List Command)
    (own : List (List α)) (n : Nat) :
    (interleave f sends own).take n = interleave f sends (own.take n) := by
  induction own generalizing sends n with
  | nil => simp [interleave]
  | cons first own ih =>
      cases n with
      | zero => rfl
      | succ n => rw [interleave, List.take_succ_cons, List.take_succ_cons, interleave, ih]

theorem length_interleave {α : Type} (f : Command → α) (sends : Nat → List Command)
    (own : List (List α)) : (interleave f sends own).length = own.length := by
  induction own generalizing sends with
  | nil => rfl
  | cons first own ih => rw [interleave, List.length_cons, List.length_cons, ih]

namespace AsyncBoard

variable {t : Transport σ ε} {fuel : Nat} {board board' : BoardState σ}

/-- With these exchanges, one `next_event` call returns this. -/
def Turn (t : Transport σ ε) (fuel : Nat) (exchanges : List (Exchange ε))
    (result : SessionResult ε) : Prop :=
  ∀ board board', Answers t exchanges board board' →
    operation t fuel .nextEvent board = some (result, board')

/-- Acknowledgements are consumed one unit of fuel each. -/
theorem nextEvent_of_acknowledgements {notifications : List Notification} {next : BoardState σ}
    (hacks : ∀ notification ∈ notifications, observe notification = none)
    (h : Answers t (consumed notifications) board next) :
    nextEvent t (notifications.length + fuel) board = nextEvent t fuel next := by
  induction notifications generalizing board with
  | nil =>
      obtain rfl : board = next := h
      rw [List.length_nil, Nat.zero_add]
  | cons notification notifications ih =>
      obtain ⟨hfirst, hrest⟩ := List.forall_mem_cons.1 hacks
      obtain ⟨after, hreceive, hafter⟩ := h
      rw [List.length_cons, Nat.add_right_comm, nextEvent_of_receive hreceive, hfirst]
      exact ih hrest hafter

theorem turn_of_consumes {round : List Notification}
    {value : Except DecodeNotificationError BoardEvent} (h : Consumes round value)
    (hfuel : round.length ≤ fuel) :
    Turn t fuel (consumed round) ((value.mapError .decode).map .event) := by
  obtain ⟨acknowledgements, last, rfl, hacks, hlast⟩ := h
  intro board board' hanswers
  rw [consumed, List.map_append] at hanswers
  obtain ⟨next, hnext, after, hreceive, rfl⟩ := answers_append.1 hanswers
  rw [List.length_append, List.length_singleton] at hfuel
  obtain ⟨extra, rfl⟩ := Nat.exists_eq_add_of_le hfuel
  have hevent := @nextEvent_of_receive σ ε t extra next after last hreceive
  rw [hlast] at hevent
  rw [operation, Nat.add_assoc, nextEvent_of_acknowledgements hacks hnext, Nat.add_comm 1, hevent]
  rfl

/-- The failure of the transport ends the call that reaches it. -/
theorem turn_of_error {notifications : List Notification} (error : ε)
    (hacks : ∀ notification ∈ notifications, observe notification = none)
    (hfuel : notifications.length < fuel) :
    Turn t fuel (consumed notifications ++ [.received (.error error)])
      (.error (.transport error)) := by
  intro board board' hanswers
  obtain ⟨next, hnext, after, hreceive, rfl⟩ := answers_append.1 hanswers
  obtain ⟨extra, rfl⟩ := Nat.exists_eq_add_of_lt hfuel
  rw [operation, Nat.add_assoc, nextEvent_of_acknowledgements hacks hnext, nextEvent, hreceive]
  rfl

theorem run_append {calls calls' : List SessionCall} {results results' : List (SessionResult ε)}
    {next : BoardState σ} (h : run t fuel calls board = some (results, next))
    (h' : run t fuel calls' next = some (results', board')) :
    run t fuel (calls ++ calls') board = some (results ++ results', board') := by
  induction calls generalizing board results with
  | nil =>
      obtain ⟨rfl, rfl⟩ := Prod.mk.inj (Option.some.inj h)
      exact h'
  | cons call calls ih =>
      obtain ⟨⟨result, after⟩, hcall, hrest⟩ := Option.bind_eq_some_iff.1 h
      obtain ⟨⟨rest, last⟩, hlast, heq⟩ := Option.bind_eq_some_iff.1 hrest
      obtain ⟨rfl, rfl⟩ := Prod.mk.inj (Option.some.inj heq)
      have hall := ih hlast
      simp only [run, List.cons_append, runCalls, Option.bind_eq_bind] at hall ⊢
      rw [hcall, Option.bind_some, hall]
      rfl

/-- Successful sends. -/
theorem run_sends {commands : List Command}
    (h : Answers t (commands.map wrote) board board') :
    run t fuel (commands.map .send) board = some (commands.map fun _ => .ok .done, board') := by
  induction commands generalizing board with
  | nil =>
      obtain rfl : board = board' := h
      rfl
  | cons command commands ih =>
      obtain ⟨next, hnext, hrest⟩ := h
      have hsend : operation t fuel (.send command) board = some (.ok .done, next) := by
        rw [operation, send, hnext]
        rfl
      have hall := ih hrest
      simp only [run, List.map_cons, runCalls, Option.bind_eq_bind] at hall ⊢
      rw [hsend, Option.bind_some, hall]
      rfl

/-- Sends and one turn after another. -/
theorem run_turns {exchanges : List (List (Exchange ε))} {results : List (SessionResult ε)}
    (hturns : List.Forall₂ (Turn t fuel) exchanges results) (sends : Nat → List Command)
    (h : Answers t (interleave wrote sends exchanges).flatten board board') :
    run t fuel (interleave .send sends (exchanges.map fun _ => [.nextEvent])).flatten board
      = some ((interleave (fun _ => .ok .done) sends (results.map fun result => [result])).flatten,
          board') := by
  induction hturns generalizing sends board with
  | nil =>
      obtain rfl : board = board' := h
      rfl
  | @cons own result exchanges results hturn _ ih =>
      simp only [interleave, List.map_cons, List.flatten_cons, List.append_assoc] at h ⊢
      obtain ⟨sent, hsent, h⟩ := answers_append.1 h
      obtain ⟨next, hnext, h⟩ := answers_append.1 h
      have hcall : run t fuel [.nextEvent] sent = some ([result], next) := by
        simp only [run, runCalls, Option.bind_eq_bind]
        rw [hturn sent next hnext]
        rfl
      exact run_append (run_sends hsent) (run_append hcall (ih _ h))

end AsyncBoard

/-! ## All notifications -/

section Delivery

variable {t : Transport σ ε} {fuel : Nat} {board board' : BoardState σ}

theorem length_le_of_mem_complete {notifications round : List Notification}
    (h : round ∈ (rounds notifications).complete) : round.length ≤ notifications.length := by
  have hflatten := congrArg List.length (cuts_rounds notifications).flatten_eq
  rw [List.length_append] at hflatten
  have hround := (List.sublist_flatten_of_mem h).length_le
  omega

theorem length_rest_le (notifications : List Notification) :
    (rounds notifications).rest.length ≤ notifications.length := by
  have hflatten := congrArg List.length (cuts_rounds notifications).flatten_eq
  rw [List.length_append] at hflatten
  omega

/-- Every call has its own exchanges and its own result. -/
theorem turns (t : Transport σ ε) {notifications : List Notification} (error : ε)
    (hfuel : notifications.length < fuel) :
    List.Forall₂ (AsyncBoard.Turn t fuel) (deliveries notifications error)
      (outcomes notifications error) := by
  have hrounds : List.Forall₂ (AsyncBoard.Turn t fuel)
      ((rounds notifications).complete.map consumed)
      ((notifications.filterMap observe).map fun value => (value.mapError .decode).map .event) := by
    rw [List.forall₂_map_left_iff, List.forall₂_map_right_iff]
    have hshort : ∀ round ∈ (rounds notifications).complete, round.length ≤ fuel :=
      fun round hround => (length_le_of_mem_complete hround).trans hfuel.le
    refine ((List.forall₂_and_left _ _).2 ⟨hshort, (cuts_rounds notifications).consumes⟩).imp ?_
    exact fun round value h => AsyncBoard.turn_of_consumes h.2 h.1
  have hlast := AsyncBoard.turn_of_error (t := t) error (cuts_rounds notifications).observe_of_mem
    ((length_rest_le notifications).trans_lt hfuel)
  exact List.rel_append hrounds (.cons hlast .nil)

/-- **Sessions deliver every notification's outcome once and in order.** On a transport that returns
    these notifications and then fails, with successful sends before every call, the `next_event`
    calls return: the outcomes of the notifications without the acknowledgements, and then the
    failure. Each consumes a maximal run of acknowledgements and the notification after it, or what
    is left and the failure. -/
theorem sessions_deliver (t : Transport σ ε) (notifications : List Notification) (error : ε)
    (sends : Nat → List Command) (board board' : BoardState σ) (record : List (Exchange ε))
    (hanswers : Answers t (interleave wrote sends (deliveries notifications error)).flatten board
      board')
    (fuel : Nat) (hfuel : notifications.length < fuel) :
    ((rounds notifications).complete.flatten ++ (rounds notifications).rest = notifications ∧
      List.Forall₂ Consumes (rounds notifications).complete (notifications.filterMap observe) ∧
      ∀ notification ∈ (rounds notifications).rest, observe notification = none) ∧
    ∀ calls ≤ (outcomes notifications error).length,
      ∃ next, (calls = (outcomes notifications error).length → next = board') ∧
        let program := (interleave .send sends (List.replicate calls [.nextEvent])).flatten
        let results := (interleave (fun _ => .ok .done) sends
          (((outcomes notifications error).take calls).map fun result => [result])).flatten
        let exchanges := (interleave wrote sends
          ((deliveries notifications error).take calls)).flatten
        AsyncBoard.run t fuel program board = some (results, next) ∧
        AsyncBoard.run (recorded t) fuel program (board.withRecord record)
          = some (results, next.withRecord (record ++ exchanges)) ∧
        BlockingBoard.run t fuel program board = some (results, next) ∧
        BlockingBoard.run (recorded t) fuel program (board.withRecord record)
          = some (results, next.withRecord (record ++ exchanges)) := by
  have hcuts := cuts_rounds notifications
  refine ⟨⟨hcuts.flatten_eq, hcuts.consumes, hcuts.observe_of_mem⟩, fun calls hcalls => ?_⟩
  rw [← List.take_append_drop calls (interleave wrote sends _), List.flatten_append] at hanswers
  obtain ⟨next, hnext, hrest⟩ := answers_append.1 hanswers
  rw [take_interleave] at hnext
  have hlength := (turns t error hfuel).length_eq
  have hprogram : ((deliveries notifications error).take calls).map
      (fun _ => [SessionCall.nextEvent]) = List.replicate calls [.nextEvent] := by
    rw [List.map_const', List.length_take, hlength, Nat.min_eq_left hcalls]
  have hrun := AsyncBoard.run_turns (List.forall₂_take calls (turns t error hfuel)) sends hnext
  have hrecorded := AsyncBoard.run_turns
    (List.forall₂_take calls (turns (recorded t) error hfuel)) sends (answers_recorded hnext record)
  rw [hprogram] at hrun hrecorded
  refine ⟨next, ?_, hrun, hrecorded, ?_, ?_⟩
  · rintro rfl
    rw [List.drop_of_length_le (by rw [length_interleave, hlength])] at hrest
    exact hrest
  · exact (BlockingBoard.run_eq_asyncBoard t fuel _ board).trans hrun
  · exact (BlockingBoard.run_eq_asyncBoard (recorded t) fuel _ _).trans hrecorded

/-- A transport that returns what is in a list and fails at its end. -/
def scripted : Transport (List Notification) Unit where
  perform _ script := (.ok (), script)
  nextNotification script buffer :=
    match script with
    | [] => (.error (), [], buffer)
    | notification :: script => (.ok notification, script, buffer)

/-- An acknowledgement, a malformed notification, a battery report and another acknowledgement. -/
def script : List Notification :=
  [⟨.commandResponse, [0x23]⟩, ⟨.position, []⟩,
    ⟨.commandResponse, [0x41, 0x03, 0x0c, 0x01, 74]⟩, ⟨.commandResponse, [0x23, 0]⟩]

/-- The battery query is written before the second call. -/
def scriptSends : Nat → List Command
  | 1 => [.readBatteryLevel]
  | _ => []

theorem script_delivered :
    ∃ result event,
      AsyncBoard.run scripted 5 [.nextEvent, .send .readBatteryLevel, .nextEvent, .nextEvent]
          ⟨script, .replicate _ 0⟩
        = some ([.error (.decode result), .ok .done, .ok (.event event), .error (.transport ())],
            ⟨[], .replicate _ 0⟩) := by
  have hanswers : Answers scripted
      (interleave wrote scriptSends (deliveries script ())).flatten ⟨script, .replicate _ 0⟩
      ⟨[], .replicate _ 0⟩ :=
    ⟨_, rfl, _, rfl, _, rfl, _, rfl, _, rfl, _, rfl, rfl⟩
  obtain ⟨next, hlast, hrun, -⟩ :=
    (sessions_deliver scripted script () scriptSends _ _ [] hanswers 5 (by decide)).2 3 (by decide)
  obtain rfl := hlast rfl
  exact ⟨_, _, hrun⟩

end Delivery

end ChessnutMove
