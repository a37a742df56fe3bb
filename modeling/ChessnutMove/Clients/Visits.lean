import ChessnutMove.Clients.Programs
import ChessnutMove.Tokio.Exit

set_option autoImplicit false

/-! # What the clients do

The journal of a client is a word of the language of its program. From that one reads off what a
run does: the board goes through a whole session, in the sense in which the actor's transport does,
the first error is the one that is returned, and the observer is told of nothing but the first
event of each kind. -/

namespace ChessnutMove

open Journal

variable {σ ε : Type}

namespace Clients

/-! ## What the journal says -/

namespace ClientEvent

/-- The error that ends a session. -/
def boardError : ClientEvent ε → Option (BoardError ε)
  | .exchanged (.received (.ok notification)) =>
      match observe notification with
      | some (.error error) => some (.decode error)
      | _ => none
  | .exchanged exchange => exchange.error.map .transport
  | _ => none

def exchange : ClientEvent ε → Option (Exchange ε)
  | .exchanged exchange => some exchange
  | _ => none

def call : ClientEvent ε → Option TransportCall
  | .exchanged (.performed call _) => some call
  | _ => none

/-- The event that a notification brought. -/
def observed : ClientEvent ε → Option BoardEvent
  | .exchanged (.received (.ok notification)) =>
      match observe notification with
      | some (.ok event) => some event
      | _ => none
  | _ => none

/-- The event that the observer was told of. -/
def heard : ClientEvent ε → Option BoardEvent
  | .told event => some event
  | _ => none

def heardKind (entry : ClientEvent ε) : Option EventKind := entry.heard.map .of

end ClientEvent

/-- The first event of each kind, one kind after the other. -/
def firsts : List EventKind → List BoardEvent → List BoardEvent
  | [], _ | _, [] => []
  | kind :: kinds, event :: events =>
      if .of event = kind then event :: firsts kinds events else firsts (kind :: kinds) events

theorem firsts_nil (kinds : List EventKind) : firsts kinds [] = [] := by
  cases kinds <;> rfl

/-- What the observer is told are the first events of kinds of which the rest is still awaited. -/
def Tells (kinds rest : List EventKind) {α : Type} :
    Except (BoardError ε) α → List (ClientEvent ε) → Prop
  | .ok _, word => ∀ events, firsts kinds (word.filterMap ClientEvent.observed ++ events)
      = word.filterMap ClientEvent.heard ++ firsts rest events
  | .error _, word => firsts kinds (word.filterMap ClientEvent.observed)
      = word.filterMap ClientEvent.heard

section Words

variable {α γ : Type} {kinds rest last : List EventKind} {word : List (ClientEvent ε)}

theorem every_then_tells {L : ClientLanguage ε α}
    {M : α → ClientLanguage ε γ} (h : Every (Tells kinds rest) L)
    (hM : ∀ a, Every (Tells rest last) (M a)) : Every (Tells kinds last) (Then L M) := by
  intro result word hword
  cases hword with
  | failed error _ hL => exact h _ word hL
  | next a _ first second hL hsecond =>
      have hfirst : ∀ events, firsts kinds (first.filterMap ClientEvent.observed ++ events)
          = first.filterMap ClientEvent.heard ++ firsts rest events := h _ first hL
      have hsecond := hM a _ second hsecond
      cases result with
      | ok c =>
          intro events
          rw [List.filterMap_append, List.filterMap_append, List.append_assoc, hfirst,
            hsecond events, List.append_assoc]
      | error error =>
          show firsts kinds ((first ++ second).filterMap ClientEvent.observed)
            = (first ++ second).filterMap ClientEvent.heard
          rw [List.filterMap_append, List.filterMap_append, hfirst]
          exact congrArg (_ ++ ·) hsecond

/-! ### Transport calls -/

section Called

variable {calls : List TransportCall} {result : Except (BoardError ε) Unit}

theorem Called.exchanged (h : Called calls result word) :
    ∀ entry ∈ word, ∃ call ∈ calls, ∃ outcome, entry = .exchanged (.performed call outcome) := by
  induction h with
  | nil => nofun
  | failed call rest error =>
      exact List.forall_mem_singleton.2 ⟨call, List.mem_cons_self, _, rfl⟩
  | next call h ih =>
      refine List.forall_mem_cons.2 ⟨⟨call, List.mem_cons_self, _, rfl⟩, fun entry hentry => ?_⟩
      obtain ⟨other, hother, houtcome⟩ := ih entry hentry
      exact ⟨other, List.mem_cons_of_mem _ hother, houtcome⟩

/-- Calls in turn are tried up to the first that fails. -/
theorem Called.tried (h : Called calls result word) :
    Tokio.Tried calls (word.filterMap ClientEvent.exchange) result.isOk := by
  induction h with
  | nil => exact .nil
  | failed call rest error => exact .failed call rest error
  | next call h ih => exact .next call ih

theorem Called.stopsAt (h : Called calls result word) :
    StopsAt ClientEvent.boardError result word := by
  induction h with
  | nil => exact nofun
  | failed call rest error => exact stopsAt_last rfl
  | next call h ih => exact ih.cons rfl

theorem Called.lists (h : Called calls result word) :
    Lists ClientEvent.call calls result word := by
  induction h with
  | nil => rfl
  | failed call rest error => exact ⟨rest, rfl⟩
  | next call h ih => exact ih.cons rfl

/-- Transport calls bring nothing and tell nothing. -/
theorem Called.reads (h : Called calls result word) :
    word.filterMap ClientEvent.observed = [] ∧ word.filterMap ClientEvent.heard = [] := by
  constructor
  all_goals
    refine List.filterMap_eq_nil_iff.2 fun entry hentry => ?_
    obtain ⟨call, -, outcome, rfl⟩ := h.exchanged entry hentry
    rfl

theorem Called.tells (h : Called calls result word) (kinds : List EventKind) :
    Tells kinds kinds result word := by
  obtain ⟨hobserved, hheard⟩ := h.reads
  cases result with
  | ok a =>
      intro events
      rw [hobserved, hheard, List.nil_append, List.nil_append]
  | error error =>
      show firsts kinds (word.filterMap ClientEvent.observed) = word.filterMap ClientEvent.heard
      rw [hobserved, hheard, firsts_nil]

end Called

/-! ### Awaited events -/

section Received

variable {result : Except (BoardError ε) BoardEvent}

/-- What is read of the notifications up to an event. -/
theorem Received.reads (h : Received result word) :
    word.filterMap ClientEvent.observed = result.toOption.toList ∧
      word.filterMap ClientEvent.heard = [] ∧ word.filterMap ClientEvent.call = [] := by
  induction h with
  | failed error => exact ⟨rfl, rfl, rfl⟩
  | undecodable notification error h =>
      simp [ClientEvent.observed, ClientEvent.heard, ClientEvent.call, h, Except.toOption]
  | event notification event h =>
      simp [ClientEvent.observed, ClientEvent.heard, ClientEvent.call, h, Except.toOption]
  | acknowledged notification h hrest ih =>
      simpa [ClientEvent.observed, ClientEvent.heard, ClientEvent.call, List.filterMap_cons, h]
        using ih

theorem Received.stopsAt (h : Received result word) :
    StopsAt ClientEvent.boardError result word := by
  induction h with
  | failed error => exact stopsAt_last rfl
  | undecodable notification error h =>
      exact stopsAt_last (by simp only [ClientEvent.boardError, h])
  | event notification event h =>
      exact stopsAt_single event (by simp only [ClientEvent.boardError, h])
  | acknowledged notification h hrest ih =>
      exact ih.cons (by simp only [ClientEvent.boardError, h])

/-- Notifications are exchanges of the main loop. -/
theorem Received.serving (h : Received result word) :
    ∀ entry ∈ word, ∀ exchange ∈ entry.exchange, exchange.isServing = true := by
  induction h with
  | failed error => exact List.forall_mem_singleton.2 (by rintro _ ⟨⟩; rfl)
  | undecodable notification error h => exact List.forall_mem_singleton.2 (by rintro _ ⟨⟩; rfl)
  | event notification event h => exact List.forall_mem_singleton.2 (by rintro _ ⟨⟩; rfl)
  | acknowledged notification h hrest ih =>
      exact List.forall_mem_cons.2 ⟨by rintro _ ⟨⟩; rfl, ih⟩

end Received

section Awaited

variable (kind : EventKind)

theorem awaited_stopsAt : Every (StopsAt ClientEvent.boardError) (Awaited kind : ClientLanguage ε Unit) := by
  refine every_rounds_stopsAt (every_then_stopsAt (fun _ _ h => h.stopsAt) fun event => ?_)
  intro result word h
  cases h with
  | told h => exact stopsAt_single _ rfl
  | passed h => exact nofun

theorem awaited_serving :
    Every (fun _ word => ∀ entry ∈ word, ∀ exchange ∈ entry.exchange, exchange.isServing = true)
      (Awaited kind : ClientLanguage ε Unit) := by
  refine every_rounds_forall (every_then_forall (fun _ _ h => h.serving) fun event => ?_)
  intro result word h
  cases h with
  | told h => exact List.forall_mem_singleton.2 nofun
  | passed h => exact nofun

/-- The observer is told of the first event of the kind. By induction on the rounds: an event of
    another kind is passed over by `firsts`, too. -/
theorem awaited_tells (kinds : List EventKind) :
    Every (Tells (kind :: kinds) kinds) (Awaited kind : ClientLanguage ε Unit) := by
  intro result word h
  induction h with
  | failed error word h =>
      cases h with
      | failed _ _ hreceived =>
          obtain ⟨hobserved, hheard, -⟩ := hreceived.reads
          show firsts _ (word.filterMap ClientEvent.observed) = word.filterMap ClientEvent.heard
          rw [hobserved, hheard]
          rfl
      | next event _ first rest hreceived htold => cases htold
  | found _ word h =>
      cases h with
      | next event _ first rest hreceived htold =>
          obtain ⟨hobserved, hheard, -⟩ := hreceived.reads
          cases htold with
          | told hkind =>
              intro events
              rw [List.filterMap_append, List.filterMap_append, hobserved, hheard]
              exact if_pos hkind
  | again result word more h hrest ih =>
      cases h with
      | next event _ first rest hreceived htold =>
          obtain ⟨hobserved, hheard, -⟩ := hreceived.reads
          cases htold with
          | passed hkind =>
              have hskip : ∀ events, firsts (kind :: kinds) (event :: events)
                  = firsts (kind :: kinds) events := fun events => if_neg hkind
              rw [List.append_nil]
              cases result with
              | ok _ =>
                  intro events
                  rw [List.filterMap_append, List.filterMap_append, hobserved, hheard]
                  exact (hskip _).trans (ih events)
              | error error =>
                  show firsts _ ((first ++ more).filterMap ClientEvent.observed)
                    = (first ++ more).filterMap ClientEvent.heard
                  rw [List.filterMap_append, List.filterMap_append, hobserved, hheard]
                  exact (hskip _).trans ih

/-- The observer is told of one event, and that is of the kind. -/
theorem awaited_heard : Every (Lists ClientEvent.heardKind [kind]) (Awaited kind : ClientLanguage ε Unit) := by
  have hreads : ∀ {result : Except (BoardError ε) BoardEvent} {word : List (ClientEvent ε)},
      Received result word → word.filterMap ClientEvent.heardKind = [] := by
    intro result word h
    show word.filterMap (fun entry => entry.heard.map EventKind.of) = []
    rw [← List.map_filterMap, h.reads.2.1]
    rfl
  intro result word h
  induction h with
  | failed error word h =>
      cases h with
      | failed _ _ hreceived => exact hreads hreceived ▸ List.nil_prefix
      | next event _ first rest hreceived htold => cases htold
  | found _ word h =>
      cases h with
      | next event _ first rest hreceived htold =>
          cases htold with
          | told hkind => exact Lists.append (hreads hreceived) (congrArg ([·]) hkind)
  | again result word more h hrest ih =>
      cases h with
      | next event _ first rest hreceived htold =>
          cases htold with
          | passed hkind =>
              rw [List.append_nil]
              exact ih.append (hreads hreceived)

/-- The loops make no calls. -/
theorem awaited_calls : Every (Lists ClientEvent.call []) (Awaited kind : ClientLanguage ε Unit) := by
  have hall : Every (fun _ word => ∀ entry ∈ word, entry.call = none) (Awaited kind : ClientLanguage ε Unit) := by
    refine every_rounds_forall (every_then_forall (fun _ word h => ?_) fun event => ?_)
    · exact List.filterMap_eq_nil_iff.1 h.reads.2.2
    · intro result word h
      cases h with
      | told h => exact List.forall_mem_singleton.2 rfl
      | passed h => exact nofun
  intro result word h
  exact lists_nil (List.filterMap_eq_nil_iff.2 (hall result word h))

end Awaited

end Words

/-! ### The session -/

section Served

theorem called_calls (calls : List TransportCall) :
    Every (Lists ClientEvent.call calls) (Called calls : ClientLanguage ε Unit) :=
  fun _ _ h => h.lists

theorem called_heard (calls : List TransportCall) :
    Every (Lists ClientEvent.heardKind []) (Called calls : ClientLanguage ε Unit) := by
  intro result word h
  refine lists_nil (List.filterMap_eq_nil_iff.2 fun entry hentry => ?_)
  obtain ⟨call, -, outcome, rfl⟩ := h.exchanged entry hentry
  rfl

theorem Called.serving {command : Command} {result : Except (BoardError ε) Unit}
    {word : List (ClientEvent ε)} (h : Called [.writeCommand command] result word) :
    ∀ entry ∈ word, ∀ exchange ∈ entry.exchange, exchange.isServing = true := by
  intro entry hentry
  obtain ⟨call, hcall, outcome, rfl⟩ := h.exchanged entry hentry
  obtain rfl := List.mem_singleton.1 hcall
  rintro _ ⟨⟩
  rfl

theorem served_stopsAt : Every (StopsAt ClientEvent.boardError) (Served : ClientLanguage ε Unit) :=
  every_then_stopsAt (fun _ _ h => h.stopsAt) fun _ =>
    every_then_stopsAt (awaited_stopsAt _) fun _ =>
      every_then_stopsAt (fun _ _ h => h.stopsAt) fun _ =>
        every_then_stopsAt (awaited_stopsAt _) fun _ => awaited_stopsAt _

theorem served_serving :
    Every (fun _ word => ∀ entry ∈ word, ∀ exchange ∈ entry.exchange, exchange.isServing = true)
      (Served : ClientLanguage ε Unit) :=
  every_then_forall (fun _ _ h => h.serving) fun _ =>
    every_then_forall (awaited_serving _) fun _ =>
      every_then_forall (fun _ _ h => h.serving) fun _ =>
        every_then_forall (awaited_serving _) fun _ => awaited_serving _

theorem served_tells : Every (Tells [.battery, .pieces, .position] []) (Served : ClientLanguage ε Unit) :=
  every_then_tells (fun _ _ h => h.tells _) fun _ =>
    every_then_tells (awaited_tells _ _) fun _ =>
      every_then_tells (fun _ _ h => h.tells _) fun _ =>
        every_then_tells (awaited_tells _ _) fun _ => awaited_tells _ _

theorem served_heard : Every (Lists ClientEvent.heardKind [.battery, .pieces, .position])
    (Served : ClientLanguage ε Unit) :=
  every_then_lists (called_heard _) fun _ =>
    every_then_lists (awaited_heard _) fun _ =>
      every_then_lists (called_heard _) fun _ =>
        every_then_lists (awaited_heard _) fun _ => awaited_heard _

theorem served_calls :
    Every (Lists ClientEvent.call [.writeCommand .readBatteryLevel, .writeCommand .readPieceStatus])
      (Served : ClientLanguage ε Unit) :=
  every_then_lists (called_calls _) fun _ =>
    every_then_lists (awaited_calls _) fun _ =>
      every_then_lists (called_calls _) fun _ =>
        every_then_lists (awaited_calls _) fun _ => awaited_calls _

theorem error_eq_none {entry : ClientEvent ε} {exchange : Exchange ε}
    (h : entry.exchange = some exchange) (hnone : entry.boardError = none) :
    exchange.error = none := by
  cases entry with
  | exchanged exchange' =>
      obtain rfl : exchange' = exchange := Option.some.inj h
      cases exchange' with
      | performed call result => exact Option.map_eq_none_iff.1 hnone
      | received result =>
          cases result with
          | ok notification => rfl
          | error error => exact Option.map_eq_none_iff.1 hnone
  | _ => cases h

/-- Of the exchanges with the board only the last may fail. -/
theorem error_eq_none_of_dropLast {result : Except (BoardError ε) Unit}
    {word : List (ClientEvent ε)} (h : StopsAt ClientEvent.boardError result word) :
    ∀ exchange ∈ (word.filterMap ClientEvent.exchange).dropLast, exchange.error = none := by
  have hall : ∀ {word : List (ClientEvent ε)}, (∀ entry ∈ word, entry.boardError = none) →
      ∀ exchange ∈ word.filterMap ClientEvent.exchange, exchange.error = none := by
    intro word hnone exchange hmem
    obtain ⟨entry, hentry, hexchange⟩ := List.mem_filterMap.1 hmem
    exact error_eq_none hexchange (hnone entry hentry)
  cases result with
  | ok a => exact fun exchange hmem => hall h exchange (List.dropLast_subset _ hmem)
  | error error =>
      obtain ⟨before, last, rfl, -, hbefore⟩ := h
      rw [List.filterMap_append]
      cases hlast : last.exchange with
      | none =>
          rw [List.filterMap_cons_none hlast, List.filterMap_nil, List.append_nil]
          exact fun exchange hmem => hall hbefore exchange (List.dropLast_subset _ hmem)
      | some exchange =>
          rw [List.filterMap_cons_some hlast, List.filterMap_nil, List.dropLast_concat]
          exact hall hbefore

/-- `use_board` starts the session, and then serves it if that succeeds. -/
theorem used_exchanges {result : Except (BoardError ε) Unit} {word : List (ClientEvent ε)}
    (h : Used result word) : ∃ startup serving ok,
      word.filterMap ClientEvent.exchange = startup ++ serving ∧
      Tokio.Tried Tokio.initializeTransport.toList startup ok ∧ (ok = false → serving = []) ∧
      Tokio.Serving serving := by
  cases h with
  | failed error _ hcalled =>
      exact ⟨_, [], _, (List.append_nil _).symm, hcalled.tried, fun _ => rfl, nofun, nofun⟩
  | next _ _ first rest hcalled hserved =>
      refine ⟨_, _, _, List.filterMap_append, hcalled.tried, nofun, ?_, ?_⟩
      · intro exchange hmem
        obtain ⟨entry, hentry, hexchange⟩ := List.mem_filterMap.1 hmem
        exact served_serving _ rest hserved entry hentry exchange hexchange
      · exact error_eq_none_of_dropLast (served_stopsAt _ rest hserved)

theorem used_stopsAt : Every (StopsAt ClientEvent.boardError) (Used : ClientLanguage ε Unit) :=
  every_then_stopsAt (fun _ _ h => h.stopsAt) fun _ => served_stopsAt

theorem used_tells :
    Every (Tells [.battery, .pieces, .position] []) (Used : ClientLanguage ε Unit) :=
  every_then_tells (fun _ _ h => h.tells _) fun _ => served_tells

theorem used_heard : Every (Lists ClientEvent.heardKind [.battery, .pieces, .position])
    (Used : ClientLanguage ε Unit) :=
  every_then_lists (called_heard _) fun _ => served_heard

theorem used_calls : Every (Lists ClientEvent.call (initializeCalls ++
      [.writeCommand .readBatteryLevel, .writeCommand .readPieceStatus]))
    (Used : ClientLanguage ε Unit) :=
  every_then_lists (called_calls _) fun _ => served_calls

end Served

/-! ## Runs of the clients -/

section Run

variable {t : Transport σ ε} {connector : Connector σ ε} {observer : Observer σ} {fuel : Nat}
  {world : σ} {world' : σ × List (ClientEvent ε)} {result : Except (ExampleError ε) Unit}

/-- The journal of a run that returns. -/
theorem journal_of_run
    (h : AsyncWithoutTokio.run (journaled t) connector.journaled observer.journaled fuel (world, [])
      = some (result, world')) :
    (∃ error, result = .error (.connect error) ∧ world'.2 = [.connected (.error error)]) ∨
    ∃ operation used shutdown cleanup, Used operation used ∧
      Called shutdownCalls shutdown cleanup ∧
      world'.2 = .connected (.ok ()) :: (used ++ cleanup) ∧
      result = (operation.mapError .session).bind fun _ => shutdown.mapError .session := by
  have hconnect : connector.journaled.connect deviceName (world, ([] : List (ClientEvent ε)))
      = ((connector.connect deviceName world).1, (connector.connect deviceName world).2,
          [.connected (connector.connect deviceName world).1]) := rfl
  unfold AsyncWithoutTokio.run run at h
  rw [hconnect] at h
  generalize connector.connect deviceName world = reply at h
  obtain ⟨connected, rest⟩ := reply
  cases connected with
  | error error =>
      obtain ⟨rfl, rfl⟩ := Prod.mk.inj (Option.some.inj h)
      exact .inl ⟨error, rfl, rfl⟩
  | ok connected =>
      obtain ⟨⟨operation, board⟩, huse, hrest⟩ := Option.bind_eq_some_iff.1 h
      obtain ⟨used, hused, hlanguage⟩ := writes_useBoard t observer fuel _ operation board huse
      obtain ⟨cleanup, hcleanup, hcalled⟩ := performAll_journaled t shutdownCalls board
      have hshutdown : (AsyncBoard.session (journaled t)).shutdown board =
          (performAll (journaled t) shutdownCalls board).map (.mapError .transport) id :=
        AsyncBoard.shutdown_eq (journaled t) board
      have hreturned : some ((operation.mapError ExampleError.session).bind fun _ =>
          (((AsyncBoard.session (journaled t)).shutdown board).1.mapError ExampleError.session),
          ((AsyncBoard.session (journaled t)).shutdown board).2.transport)
        = some (result, world') := hrest
      rw [hshutdown] at hreturned
      obtain ⟨rfl, rfl⟩ := Prod.mk.inj (Option.some.inj hreturned)
      refine .inr ⟨operation, used, _, cleanup, hlanguage, hcalled, ?_, rfl⟩
      show record (performAll (journaled t) shutdownCalls board).2 = _
      rw [hcleanup, hused, List.append_assoc]
      rfl

/-- What a run of a client says about what it did. -/
structure Visited (result : Except (ExampleError ε) Unit) (journal : List (ClientEvent ε)) :
    Prop where
  /-- Without a connection nothing else happens. -/
  unconnected : ∀ error, result = .error (.connect error) ↔
    journal = [.connected (.error error)]
  /-- With one the transport goes through a whole session; the cleanup is tried whatever failed. -/
  session : journal.head? = some (.connected (.ok ())) →
    Tokio.Session (journal.filterMap ClientEvent.exchange)
  /-- The first error of the session is returned, and no later one in its place. -/
  error : ∀ error, result = .error (.session error) ↔
    (journal.filterMap ClientEvent.boardError).head? = some error
  /-- The observer is told of the first event of each kind, in this order, and of nothing else. -/
  heard : journal.filterMap ClientEvent.heard
    = firsts [.battery, .pieces, .position] (journal.filterMap ClientEvent.observed)
  /-- Success means that all was done and all was told. -/
  ok : result = .ok () → journal.filterMap ClientEvent.call = initializeCalls ++
      [.writeCommand .readBatteryLevel, .writeCommand .readPieceStatus] ++ shutdownCalls ∧
    (journal.filterMap ClientEvent.heard).map EventKind.of = [.battery, .pieces, .position]

theorem visited_of_unconnected (error : ε) :
    Visited (.error (.connect error)) [.connected (.error error)] := by
  refine ⟨fun error' => ?_, nofun, fun error' => iff_of_false nofun nofun, rfl, nofun⟩
  simp

/-- The parts of a session. -/
theorem visited_of_parts {operation shutdown : Except (BoardError ε) Unit}
    {used cleanup : List (ClientEvent ε)} (hused : Used operation used)
    (hcleanup : Called shutdownCalls shutdown cleanup) :
    Visited ((operation.mapError .session).bind fun _ => shutdown.mapError .session)
      (.connected (.ok ()) :: (used ++ cleanup)) := by
  have herrors := used_stopsAt operation used hused
  obtain ⟨hobserved, hheard⟩ := hcleanup.reads
  refine ⟨fun error => ?_, fun _ => ?_, fun error => ?_, ?_, fun hok => ?_⟩
  · refine iff_of_false ?_ nofun
    cases operation <;> cases shutdown <;> nofun
  · obtain ⟨startup, serving, ok, hexchanges, htried, hnone, hserving⟩ := used_exchanges hused
    refine ⟨startup, serving, _, ok, _, ?_, htried, hnone, hserving, hcleanup.tried⟩
    rw [List.filterMap_cons_none rfl, List.filterMap_append, hexchanges]
  · rw [List.filterMap_cons_none rfl, List.filterMap_append, List.head?_append]
    cases operation with
    | ok done =>
        rw [List.filterMap_eq_nil_iff.2 herrors]
        refine Iff.trans ?_ (hcleanup.stopsAt.head?_eq error).symm
        cases shutdown <;> simp [Except.bind, Except.mapError]
    | error error' =>
        rw [(herrors.head?_eq error').2 rfl]
        simp [Except.bind, Except.mapError]
  · rw [List.filterMap_cons_none rfl, List.filterMap_cons_none rfl, List.filterMap_append,
      List.filterMap_append, hobserved, hheard, List.append_nil, List.append_nil]
    have htells := used_tells operation used hused
    cases operation with
    | ok done =>
        have hall := htells []
        rw [List.append_nil, firsts_nil, List.append_nil] at hall
        exact hall.symm
    | error error => exact htells.symm
  · cases operation with
    | ok done =>
        cases shutdown with
        | ok done =>
            rw [List.filterMap_cons_none rfl, List.filterMap_cons_none rfl, List.filterMap_append,
              List.filterMap_append, hheard, List.append_nil, List.map_filterMap]
            refine ⟨?_, used_heard _ used hused⟩
            rw [used_calls _ used hused, hcleanup.lists]
        | error error => cases hok
    | error error => cases hok

/-- **The clients** hand the board back after a whole session, return the first error, and
    tell the observer of the first battery status, the first piece status behind it and the first
    position behind that; and the two clients do the same. -/
theorem run_visited
    (h : AsyncWithoutTokio.run (journaled t) connector.journaled observer.journaled fuel (world, [])
      = some (result, world')) :
    Visited result world'.2 ∧
      BlockingNoStd.run (journaled t) connector.journaled observer.journaled fuel (world, [])
        = some (result, world') := by
  constructor
  · obtain ⟨error, rfl, hjournal⟩ | ⟨operation, used, shutdown, cleanup, hused, hcleanup, hjournal,
      rfl⟩ := journal_of_run h
    · exact hjournal ▸ visited_of_unconnected error
    · exact hjournal ▸ visited_of_parts hused hcleanup
  · rw [BlockingNoStd.run, BlockingBoard.session_eq]
    exact h

/-- A board that has these notifications to send, and then is out of reach. -/
def scriptedTransport : Transport (List Notification) Unit where
  perform _ script := (.ok (), script)
  nextNotification script buffer :=
    match script with
    | [] => (.error (), [], buffer)
    | notification :: rest => (.ok notification, rest, buffer)

def openConnector : Connector (List Notification) Unit := ⟨fun _ script => (.ok (), script)⟩

def silentObserver : Observer (List Notification) :=
  ⟨fun _ script => script, fun _ script => script, fun _ script => script⟩

/-- An acknowledgement, a position that nobody waits for yet, and all that is waited for. -/
def sessionScript : List Notification :=
  [⟨.commandResponse, [0x23]⟩, ⟨.position, .replicate 34 0⟩,
    ⟨.commandResponse, [0x41, 0x03, 0x0c, 1, 80]⟩,
    ⟨.commandResponse, [0x41, 0x89, 0x0b] ++ (List.replicate 34 [1, 2, 3, 100]).flatten⟩,
    ⟨.position, .replicate 34 0⟩]

set_option maxRecDepth 4000 in
theorem sessionScript_run_visited : ∃ world',
    AsyncWithoutTokio.run (journaled scriptedTransport) openConnector.journaled
      silentObserver.journaled 6 (sessionScript, []) = some (.ok (), world') ∧
    Visited (.ok ()) world'.2 := by
  have hrun : AsyncWithoutTokio.run (journaled scriptedTransport) openConnector.journaled
      silentObserver.journaled 6 (sessionScript, []) = some (.ok (), _) := rfl
  exact ⟨_, hrun, (run_visited hrun).1⟩

end Run

end Clients

end ChessnutMove
