import RegisterGateway.Proofs.Modbus.Listening

/-!
# Admission of Modbus peers

A trace is what has happened at a listener since its start, and what has come of it. The live
connections are read off a trace: they have been admitted and have not ended since. The listener
keeps no other account, and by `Follows.step` the two agree after every event. So a peer is
refused exactly if the filter keeps it out, or as many connections are live as the limit allows.
-/

namespace RegisterGateway

namespace Modbus

/-! ## Traces -/

/-- Events at a listener and what has come of each, in their order. -/
abbrev Trace : Type := List (ListenerEvent × Net.Outcome)

namespace Trace

/-- The numbers under which peers have been admitted. -/
def admitted (trace : Trace) : List Nat :=
  trace.filterMap fun heard => heard.2.admitted?

/-- The numbers of the connections that have ended. -/
def ended (trace : Trace) : List Nat :=
  trace.filterMap fun heard => if heard.2.isEnd then heard.1.connection? else none

/-- The connections that have been admitted and have not ended. -/
def live (trace : Trace) : List Nat :=
  trace.admitted.filter fun number => number ∉ trace.ended

/-- The number of peers that have been refused. -/
def refusals (trace : Trace) : Nat :=
  trace.countP fun heard => heard.2 = .refused

/-- The number of peers that have come. -/
def arrivals (trace : Trace) : Nat :=
  trace.countP fun heard => heard.1.isArrival

/-- What an event adds to what has been sent on a connection. -/
def sent (number : Nat) : ListenerEvent × Net.Outcome → List UInt8
  | (.received connection bytes, .served ..) => if connection = number then bytes else []
  | _ => []

/-- What has been sent on a connection while it was open. -/
def stream (trace : Trace) (number : Nat) : List UInt8 :=
  trace.flatMap (sent number)

variable {trace : Trace} {event : ListenerEvent} {outcome : Net.Outcome} {number : Nat}

theorem admitted_concat :
    admitted (trace ++ [(event, outcome)]) = trace.admitted ++ outcome.admitted?.toList := by
  rw [admitted, List.filterMap_append]
  cases admitted : outcome.admitted? <;> simp [Trace.admitted, admitted]

theorem ended_concat (goesOn : outcome.isEnd = false) :
    ended (trace ++ [(event, outcome)]) = trace.ended := by
  simp [ended, List.filterMap_append, goesOn]

theorem ended_concat_of_isEnd (ends : outcome.isEnd = true)
    (about : event.connection? = some number) :
    ended (trace ++ [(event, outcome)]) = trace.ended ++ [number] := by
  simp [ended, List.filterMap_append, ends, about]

theorem stream_concat (other : Nat) :
    stream (trace ++ [(event, outcome)]) other =
      trace.stream other ++ sent other (event, outcome) := by
  simp [stream, List.flatMap_append]

theorem sent_self (number : Nat) (bytes replies : List UInt8) (goesOn : Bool) :
    sent number (.received number bytes, .served replies goesOn) = bytes :=
  if_pos rfl

theorem sent_of_ne {other : Nat} (about : event.connection? = some number)
    (different : other ≠ number) : sent other (event, outcome) = [] := by
  cases event with
  | arrival | closed | broken => rfl
  | received connection bytes =>
      obtain rfl := Option.some.inj about
      cases outcome with
      | admitted | refused | unheard => rfl
      | served => exact if_neg (Ne.symm different)

theorem sent_arrival (number : Nat) (peer : Access.Address) (outcome : Net.Outcome) :
    sent number (.arrival peer, outcome) = [] := rfl

theorem sent_unheard (number : Nat) (event : ListenerEvent) :
    sent number (event, .unheard) = [] := by
  cases event <;> rfl

theorem refusals_concat :
    refusals (trace ++ [(event, outcome)]) =
      trace.refusals + if outcome = .refused then 1 else 0 := by
  simp [refusals, List.countP_append, List.countP_cons]

theorem arrivals_concat :
    arrivals (trace ++ [(event, outcome)]) =
      trace.arrivals + if event.isArrival then 1 else 0 := by
  simp [arrivals, List.countP_append, List.countP_cons]

theorem mem_live_iff :
    number ∈ trace.live ↔ number ∈ trace.admitted ∧ number ∉ trace.ended := by
  rw [live, List.mem_filter, decide_eq_true_iff]

theorem live_concat (notAdmitted : outcome.admitted? = none) (goesOn : outcome.isEnd = false) :
    live (trace ++ [(event, outcome)]) = trace.live := by
  rw [live, admitted_concat, notAdmitted, ended_concat goesOn, Option.toList_none,
    List.append_nil, live]

theorem live_concat_of_admitted (new : number ∉ trace.ended) :
    live (trace ++ [(event, .admitted number)]) = trace.live ++ [number] := by
  rw [live, admitted_concat, ended_concat rfl, List.filter_append]
  simp [Net.Outcome.admitted?, new, live]

theorem live_concat_of_isEnd (ends : outcome.isEnd = true)
    (about : event.connection? = some number) :
    live (trace ++ [(event, outcome)]) = trace.live.filter fun other => other ≠ number := by
  have notAdmitted : outcome.admitted? = none := by
    cases outcome with
    | admitted | refused | unheard => contradiction
    | served => rfl
  rw [live, admitted_concat, notAdmitted, ended_concat_of_isEnd ends about, Option.toList_none,
    List.append_nil, live, List.filter_filter]
  apply List.filter_congr
  intro other _
  simp only [List.mem_append, List.mem_singleton, not_or, ne_eq, Bool.decide_and]
  exact Bool.and_comm _ _

end Trace

namespace Listener

/-- Nothing is sent on a connection that is not open. -/
theorem Does.sent_eq_nil {listener : Listener} {plant : Plant} {event : ListenerEvent}
    {result : Net.Outcome × Listener × Plant} {number : Nat}
    (does : listener.Does plant event result)
    (isClosed : listener.connections.waiting? number = none) :
    Trace.sent number (event, result.1) = [] := by
  cases does with
  | admits | refuses => rfl
  | ignores => exact Trace.sent_unheard number event
  | serves isOpen served goesOn =>
      refine Trace.sent_of_ne rfl ?_
      rintro rfl
      rw [isClosed] at isOpen
      contradiction
  | ends about isOpen ends samePeers =>
      refine Trace.sent_of_ne about ?_
      rintro rfl
      rw [isClosed] at isOpen
      contradiction

/-! ## Connections along a trace -/

variable {start listener next : Listener} {trace : Trace} {begun plant after : Plant}
  {event : ListenerEvent} {outcome : Net.Outcome} {number : Nat}

/-- What holds of the connections of a listener after everything in a trace has happened to it
since its start. -/
structure Follows (start : Listener) (trace : Trace) (listener : Listener) : Prop where
  /-- Nothing but the connections changes. -/
  settings : ∀ connections,
    listener.withConnections connections = start.withConnections connections
  /-- Connections are numbered in the order in which they are admitted. -/
  admitted : trace.admitted = List.range listener.connections.opened
  /-- The connections that are open are those that are live. -/
  live : listener.connections.numbers = trace.live.reverse
  endedOnce : trace.ended.Nodup
  endedAdmitted : trace.ended ⊆ trace.admitted
  bounded : trace.live.length ≤ start.limit

namespace Follows

theorem limit_eq (follows : start.Follows trace listener) : listener.limit = start.limit := by
  have same := congrArg Listener.limit (follows.settings {})
  exact same

theorem filter_eq (follows : start.Follows trace listener) : listener.filter = start.filter := by
  have same := congrArg Listener.filter (follows.settings {})
  exact same

theorem isAccepting_eq (follows : start.Follows trace listener) :
    listener.isAccepting = start.isAccepting := by
  have same := congrArg Listener.isAccepting (follows.settings {})
  exact same

theorem waiting?_isSome_iff (follows : start.Follows trace listener) :
    (listener.connections.waiting? number).isSome ↔ number ∈ trace.live := by
  rw [Net.Connections.waiting?_isSome_iff, follows.live, List.mem_reverse]

theorem length_live (follows : start.Follows trace listener) :
    trace.live.length = listener.connections.live := by
  rw [← Net.Connections.length_numbers, follows.live, List.length_reverse]

/-- The next number has not been given before. -/
theorem opened_not_mem_admitted (follows : start.Follows trace listener) :
    listener.connections.opened ∉ trace.admitted := by
  rw [follows.admitted]
  exact List.not_mem_range_self

theorem admittedOnce (follows : start.Follows trace listener) : trace.admitted.Nodup := by
  rw [follows.admitted]
  exact List.nodup_range

theorem nodup_live (follows : start.Follows trace listener) : trace.live.Nodup :=
  follows.admittedOnce.filter _

/-- Every connection that has been admitted is live or has ended. -/
theorem conserved (follows : start.Follows trace listener) :
    trace.live.length + trace.ended.length = trace.admitted.length := by
  have parts := List.length_eq_length_filter_add (l := trace.admitted)
    fun number => decide (number ∉ trace.ended)
  have gone : (trace.admitted.filter fun number => !decide (number ∉ trace.ended)).Perm
      trace.ended := by
    rw [List.perm_ext_iff_of_nodup (follows.admittedOnce.filter _) follows.endedOnce]
    intro number
    simp only [List.mem_filter, Bool.not_eq_true', decide_eq_false_iff_not, not_not]
    exact and_iff_right_of_imp fun ended => follows.endedAdmitted ended
  rw [parts, gone.length_eq]
  rfl

/-- A connection that ends gives back exactly one slot. -/
theorem length_drop (follows : start.Follows trace listener) (isLive : number ∈ trace.live) :
    (listener.connections.drop number).live + 1 = trace.live.length := by
  have nodup : listener.connections.numbers.Nodup := by
    rw [follows.live]
    exact List.nodup_reverse.2 follows.nodup_live
  have isOpen : number ∈ listener.connections.numbers := by
    rwa [follows.live, List.mem_reverse]
  have erased : (listener.connections.drop number).numbers =
      listener.connections.numbers.erase number := by
    rw [Net.Connections.numbers_drop, nodup.erase_eq_filter]
    apply List.filter_congr
    intro other _
    by_cases same : other = number
    · simp [same]
    · simp [same]
  rw [follows.length_live, ← Net.Connections.length_numbers, ← Net.Connections.length_numbers,
    erased, List.length_erase_add_one isOpen]

/-- Before the first peer connects. -/
theorem begin (fresh : start.connections = {}) : start.Follows [] start where
  settings := fun _ => rfl
  admitted := by rw [fresh]; rfl
  live := by rw [fresh]; rfl
  endedOnce := List.nodup_nil
  endedAdmitted := List.nil_subset _
  bounded := Nat.zero_le _

theorem opens {peer : Access.Address} (follows : start.Follows trace listener)
    (free : listener.connections.live < listener.limit) :
    start.Follows (trace ++ [(.arrival peer, .admitted listener.connections.opened)])
      (listener.withConnections listener.connections.add.2) := by
  have new : listener.connections.opened ∉ trace.ended := fun ended =>
    follows.opened_not_mem_admitted (follows.endedAdmitted ended)
  constructor
  case settings => exact follows.settings
  case admitted =>
    rw [Trace.admitted_concat, follows.admitted]
    exact List.range_succ.symm
  case live =>
    rw [Trace.live_concat_of_admitted new, List.reverse_concat, ← follows.live]
    rfl
  case endedOnce =>
    rw [Trace.ended_concat rfl]
    exact follows.endedOnce
  case endedAdmitted =>
    rw [Trace.ended_concat rfl, Trace.admitted_concat]
    exact List.subset_append_of_subset_left _ follows.endedAdmitted
  case bounded =>
    rw [Trace.live_concat_of_admitted new, List.length_append, follows.length_live,
      ← follows.limit_eq]
    exact free

/-- An event that neither opens nor ends a connection. -/
theorem goOn {connections : Net.Connections} (follows : start.Follows trace listener)
    (sameNumbers : connections.numbers = listener.connections.numbers)
    (sameOpened : connections.opened = listener.connections.opened)
    (notAdmitted : outcome.admitted? = none) (goesOn : outcome.isEnd = false) :
    start.Follows (trace ++ [(event, outcome)]) (listener.withConnections connections) := by
  have sameAdmitted : Trace.admitted (trace ++ [(event, outcome)]) = trace.admitted := by
    rw [Trace.admitted_concat, notAdmitted]
    exact List.append_nil _
  have sameEnded : Trace.ended (trace ++ [(event, outcome)]) = trace.ended :=
    Trace.ended_concat goesOn
  have sameLive : Trace.live (trace ++ [(event, outcome)]) = trace.live :=
    Trace.live_concat notAdmitted goesOn
  constructor
  case settings => exact follows.settings
  case admitted => rw [sameAdmitted, follows.admitted, ← sameOpened]; rfl
  case live => rw [sameLive, ← follows.live, ← sameNumbers]; rfl
  case endedOnce => rw [sameEnded]; exact follows.endedOnce
  case endedAdmitted => rw [sameEnded, sameAdmitted]; exact follows.endedAdmitted
  case bounded => rw [sameLive]; exact follows.bounded

theorem closes {replies : List UInt8} (follows : start.Follows trace listener)
    (isLive : number ∈ trace.live) (about : event.connection? = some number) :
    start.Follows (trace ++ [(event, .served replies false)])
      (listener.withConnections (listener.connections.drop number)) := by
  obtain ⟨wasAdmitted, notEnded⟩ := Trace.mem_live_iff.1 isLive
  have less : Trace.live (trace ++ [(event, .served replies false)]) =
      trace.live.filter fun other => other ≠ number :=
    Trace.live_concat_of_isEnd rfl about
  have sameAdmitted :
      Trace.admitted (trace ++ [(event, .served replies false)]) = trace.admitted := by
    rw [Trace.admitted_concat]
    exact List.append_nil _
  constructor
  case settings => exact follows.settings
  case admitted => rw [sameAdmitted, follows.admitted]; rfl
  case live =>
    rw [less, ← List.filter_reverse, ← follows.live]
    exact Net.Connections.numbers_drop _ _
  case endedOnce =>
    rw [Trace.ended_concat_of_isEnd rfl about]
    exact List.nodup_append_comm.1 (List.nodup_cons.2 ⟨notEnded, follows.endedOnce⟩)
  case endedAdmitted =>
    rw [Trace.ended_concat_of_isEnd rfl about, sameAdmitted]
    exact List.append_subset.2 ⟨follows.endedAdmitted, by simpa using wasAdmitted⟩
  case bounded =>
    rw [less]
    exact (List.length_filter_le _ _).trans follows.bounded

theorem step (follows : start.Follows trace listener)
    (does : listener.Does plant event (outcome, next, after)) :
    start.Follows (trace ++ [(event, outcome)]) next := by
  cases does with
  | admits allowed free => exact follows.opens free
  | refuses turnedAway => exact follows.goOn rfl rfl rfl rfl
  | ignores about isClosed => exact follows.goOn rfl rfl rfl rfl
  | serves isOpen served goesOn =>
      exact follows.goOn (Net.Connections.numbers_keep _ _ _) rfl rfl rfl
  | ends about isOpen ends samePeers =>
      apply follows.closes _ about
      rw [← follows.waiting?_isSome_iff, isOpen]
      rfl

end Follows

/-! ## Streams along a trace -/

/-- What waits on the connections of a listener after everything in a trace has happened to it
since its start. -/
structure Hears (trace : Trace) (listener : Listener) : Prop where
  /-- What waits on a connection is what has been sent on it behind some requests. -/
  waiting : ∀ number waiting, listener.connections.waiting? number = some waiting →
    ∃ messages : List Message,
      trace.stream number = messages.flatMap Message.bytes ++ waiting
  unsent : ∀ number, number ∉ trace.admitted → trace.stream number = []

namespace Hears

theorem begin (fresh : start.connections = {}) : Hears [] start where
  waiting := by
    rw [fresh]
    nofun
  unsent := fun _ _ => rfl

theorem step (hears : Hears trace listener) (follows : start.Follows trace listener)
    (does : listener.Does plant event (outcome, next, after)) :
    Hears (trace ++ [(event, outcome)]) next := by
  constructor
  case unsent =>
    intro other new
    rw [Trace.admitted_concat, List.mem_append, not_or] at new
    have isClosed : listener.connections.waiting? other = none := by
      rw [← Option.not_isSome_iff_eq_none, follows.waiting?_isSome_iff]
      exact fun isLive => new.1 (Trace.mem_live_iff.1 isLive).1
    rw [Trace.stream_concat, hears.unsent other new.1, does.sent_eq_nil isClosed]
    rfl
  case waiting =>
    intro other waiting isOpen
    rw [Trace.stream_concat]
    cases does with
    | admits allowed free =>
        rw [connections_withConnections, Net.Connections.waiting?_add] at isOpen
        rw [Trace.sent_arrival, List.append_nil]
        split at isOpen
        · rename_i same
          obtain rfl := Option.some.inj isOpen
          exact ⟨[], by rw [same, hears.unsent _ follows.opened_not_mem_admitted]; rfl⟩
        · exact hears.waiting other waiting isOpen
    | refuses turnedAway =>
        rw [Trace.sent_arrival, List.append_nil]
        exact hears.waiting other waiting isOpen
    | ignores about isClosed =>
        rw [Trace.sent_unheard, List.append_nil]
        exact hears.waiting other waiting isOpen
    | @serves number bytes before served wasOpen served_eq goesOn =>
        rw [connections_withConnections] at isOpen
        by_cases same : other = number
        · subst same
          rw [Net.Connections.waiting?_keep_self wasOpen] at isOpen
          obtain rfl := Option.some.inj isOpen
          obtain ⟨messages, earlier⟩ := hears.waiting other before wasOpen
          subst served_eq
          obtain ⟨others, later⟩ := exists_served_of_goesOn goesOn
          refine ⟨messages ++ others, ?_⟩
          rw [earlier, Trace.sent_self, List.append_assoc, List.flatMap_append,
            List.append_assoc, ← later]
        · rw [Net.Connections.waiting?_keep_of_ne same] at isOpen
          rw [Trace.sent_of_ne rfl same, List.append_nil]
          exact hears.waiting other waiting isOpen
    | @ends _ number _ _ _ about wasOpen ends samePeers =>
        rw [connections_withConnections] at isOpen
        by_cases same : other = number
        · rw [same, Net.Connections.waiting?_drop_self] at isOpen
          contradiction
        · rw [Net.Connections.waiting?_drop_of_ne same] at isOpen
          rw [Trace.sent_of_ne about same, List.append_nil]
          exact hears.waiting other waiting isOpen

end Hears

/-! ## Peers along a trace -/

/-- What has been counted after everything in a trace has happened since a beginning. -/
structure Counts (begun : Plant) (trace : Trace) (plant : Plant) : Prop where
  /-- Every peer that has come has been admitted or refused. -/
  answered : trace.admitted.length + trace.refusals = trace.arrivals
  peers : plant.peers =
    (begun.counters.modbusConnections + UInt64.ofNat trace.admitted.length,
      begun.counters.modbusConnectionsRefused + UInt64.ofNat trace.refusals)

namespace Counts

theorem begin (begun : Plant) : Counts begun [] begun where
  answered := rfl
  peers := by simp [Plant.peers, Trace.admitted, Trace.refusals]

theorem goOn (counts : Counts begun trace plant) (noArrival : event.isArrival = false)
    (notAdmitted : outcome.admitted? = none) (notRefused : outcome ≠ .refused)
    (samePeers : after.peers = plant.peers) :
    Counts begun (trace ++ [(event, outcome)]) after where
  answered := by
    rw [Trace.admitted_concat, Trace.refusals_concat, Trace.arrivals_concat, notAdmitted,
      noArrival, if_neg notRefused]
    simpa using counts.answered
  peers := by
    rw [Trace.admitted_concat, Trace.refusals_concat, notAdmitted, if_neg notRefused, samePeers]
    simpa using counts.peers

theorem step (counts : Counts begun trace plant)
    (does : listener.Does plant event (outcome, next, after)) :
    Counts begun (trace ++ [(event, outcome)]) after := by
  obtain ⟨answered, peers⟩ := counts
  obtain ⟨admitted, refused⟩ := Prod.mk.inj peers
  cases does with
  | admits allowed free =>
      constructor
      case answered =>
        rw [Trace.admitted_concat, Trace.refusals_concat, Trace.arrivals_concat, ← answered]
        simp [Net.Outcome.admitted?, ListenerEvent.isArrival, Nat.add_right_comm]
      case peers =>
        rw [Trace.admitted_concat, Trace.refusals_concat]
        simp [Plant.peers, Plant.record, Counters.record, admitted, refused,
          Net.Outcome.admitted?, UInt64.ofNat_add, UInt64.add_assoc]
  | refuses turnedAway =>
      constructor
      case answered =>
        rw [Trace.admitted_concat, Trace.refusals_concat, Trace.arrivals_concat, ← answered]
        simp [Net.Outcome.admitted?, ListenerEvent.isArrival, Nat.add_assoc]
      case peers =>
        rw [Trace.admitted_concat, Trace.refusals_concat]
        simp [Plant.peers, Plant.record, Counters.record, admitted, refused,
          Net.Outcome.admitted?, UInt64.ofNat_add, UInt64.add_assoc]
  | ignores about isClosed =>
      exact goOn ⟨answered, peers⟩ (ListenerEvent.isArrival_of_connection? about) rfl (by simp) rfl
  | @serves number bytes waiting served isOpen served_eq goesOn =>
      refine goOn ⟨answered, peers⟩ rfl rfl (by simp) ?_
      rw [← served_eq]
      exact peers_serve _ _ plant
  | ends about isOpen ends samePeers =>
      exact goOn ⟨answered, peers⟩ (ListenerEvent.isArrival_of_connection? about) rfl (by simp)
        samePeers

end Counts

/-! ## Runs -/

/-- A run of a listener: its trace, and what it leaves. -/
def run (start : Listener) (begun : Plant) (events : List ListenerEvent) :
    Trace × Listener × Plant :=
  (events.zip (sequence protocol.hear events (start, begun)).1,
    (sequence protocol.hear events (start, begun)).2)

theorem map_fst_run (start : Listener) (begun : Plant) (events : List ListenerEvent) :
    (run start begun events).1.map Prod.fst = events :=
  List.map_fst_zip (length_sequence protocol.hear events (start, begun)).ge

theorem run_concat (start : Listener) (begun : Plant) (earlier : List ListenerEvent)
    (event : ListenerEvent) :
    run start begun (earlier ++ [event]) =
      ((run start begun earlier).1 ++
          [(event, ((run start begun earlier).2.1.step (run start begun earlier).2.2 event).1)],
        ((run start begun earlier).2.1.step (run start begun earlier).2.2 event).2) := by
  have answers := length_sequence protocol.hear earlier (start, begun)
  rw [run, sequence_append, List.zip_append answers.symm]
  rfl

/-- What every step keeps holds after every run. -/
theorem invariant_run (start : Listener) (fresh : start.connections = {})
    (accepting : start.isAccepting = true) (begun : Plant) (events : List ListenerEvent) :
    start.Follows (run start begun events).1 (run start begun events).2.1 ∧
      Hears (run start begun events).1 (run start begun events).2.1 ∧
      Counts begun (run start begun events).1 (run start begun events).2.2 := by
  induction events using List.reverseRecOn with
  | nil => exact ⟨.begin fresh, .begin fresh, .begin begun⟩
  | append_singleton earlier event ih =>
      obtain ⟨follows, hears, counts⟩ := ih
      have stillAccepting : (run start begun earlier).2.1.isAccepting = true :=
        follows.isAccepting_eq.trans accepting
      have does := does_step stillAccepting (run start begun earlier).2.2 event
      rw [run_concat]
      exact ⟨follows.step does, hears.step follows does, counts.step does⟩

/-- What a trace tells of a listener, of the plant behind it, and of what it does next. -/
structure Admission (filter : Access.IpFilter) (limit : Nat) (begun : Plant) (trace : Trace)
    (listener : Listener) (plant : Plant) : Prop where
  admittedOnce : trace.admitted.Nodup
  endedOnce : trace.ended.Nodup
  endedAdmitted : trace.ended ⊆ trace.admitted
  /-- Every live connection holds one slot, and nothing else does. -/
  slots : listener.connections.live = trace.live.length
  /-- Of the slots that have been taken, those that have been given back are free again. -/
  conserved : trace.live.length + trace.ended.length = trace.admitted.length
  bounded : trace.live.length ≤ limit
  /-- A peer is refused exactly if the filter keeps it out or no slot is free. -/
  refuses : ∀ peer, (listener.step plant (.arrival peer)).1 = .refused ↔
    filter.allows peer = false ∨ trace.live.length = limit
  /-- A refused peer takes no slot and is never heard: it is counted, and that is all. -/
  turnsAway : ∀ peer, (listener.step plant (.arrival peer)).1 = .refused →
    (listener.step plant (.arrival peer)).2 = (listener, plant.record .modbusConnectionRefused)
  /-- Every other peer takes a slot under a number of its own. -/
  admits : ∀ peer, (listener.step plant (.arrival peer)).1 ≠ .refused →
    ∃ number next, number ∉ trace.admitted ∧ next.connections.live = trace.live.length + 1 ∧
      listener.step plant (.arrival peer) =
        (.admitted number, next, plant.record .modbusConnection)
  /-- A connection that is not live is not heard. -/
  ignores : ∀ event number, event.connection? = some number → number ∉ trace.live →
    listener.step plant event = (.unheard, listener, plant)
  /-- A connection that ends gives one slot back, whichever way it ends. -/
  frees : ∀ event number, event.connection? = some number → number ∈ trace.live →
    event.Ends (trace.stream number) →
    ∃ replies next after, next.connections.live + 1 = trace.live.length ∧
      listener.step plant event = (.served replies false, next, after)
  /-- A connection keeps its slot until it ends. -/
  keeps : ∀ event number, event.connection? = some number → number ∈ trace.live →
    ¬event.Ends (trace.stream number) →
    ∃ replies next after, next.connections.live = trace.live.length ∧
      listener.step plant event = (.served replies true, next, after)
  /-- Every peer that has come has been admitted or refused, and counted as that. -/
  answered : trace.admitted.length + trace.refusals = trace.arrivals
  counted : plant.peers =
    (begun.counters.modbusConnections + UInt64.ofNat trace.admitted.length,
      begun.counters.modbusConnectionsRefused + UInt64.ofNat trace.refusals)
  /-- The two counters add up to the number of peers, as long as it can be counted. -/
  total : begun.peers = (0, 0) → trace.arrivals < 2 ^ 64 →
    plant.counters.modbusConnections.toNat + plant.counters.modbusConnectionsRefused.toNat =
      trace.arrivals

theorem Counts.total (counts : Counts begun trace plant) (zero : begun.peers = (0, 0))
    (few : trace.arrivals < 2 ^ 64) :
    plant.counters.modbusConnections.toNat + plant.counters.modbusConnectionsRefused.toNat =
      trace.arrivals := by
  obtain ⟨admitted, refused⟩ := Prod.mk.inj counts.peers
  obtain ⟨noneAdmitted, noneRefused⟩ := Prod.mk.inj zero
  have answered := counts.answered
  have countable : trace.arrivals < UInt64.size := few
  rw [admitted, refused, noneAdmitted, noneRefused, UInt64.zero_add, UInt64.zero_add,
    UInt64.toNat_ofNat_of_lt' (by omega), UInt64.toNat_ofNat_of_lt' (by omega), answered]

section Next

variable (follows : start.Follows trace listener) (accepting : start.isAccepting = true)

include follows accepting

theorem Follows.does_next (plant : Plant) (event : ListenerEvent) :
    listener.Does plant event (listener.step plant event) :=
  does_step (follows.isAccepting_eq.trans accepting) plant event

theorem Follows.arrival (plant : Plant) (peer : Access.Address) :
    (start.filter.allows peer = true ∧ trace.live.length < start.limit ∧
        listener.step plant (.arrival peer) =
          (.admitted listener.connections.opened,
            listener.withConnections listener.connections.add.2,
            plant.record .modbusConnection)) ∨
      ((start.filter.allows peer = false ∨ trace.live.length = start.limit) ∧
        listener.step plant (.arrival peer) =
          (.refused, listener, plant.record .modbusConnectionRefused)) := by
  have does := follows.does_next accepting plant (.arrival peer)
  rw [← follows.filter_eq, ← follows.limit_eq, follows.length_live]
  generalize listener.step plant (.arrival peer) = result at does ⊢
  cases does with
  | admits allowed free => exact .inl ⟨allowed, free, rfl⟩
  | refuses turnedAway =>
      have bounded : listener.connections.live ≤ listener.limit := by
        rw [← follows.length_live, follows.limit_eq]
        exact follows.bounded
      exact .inr ⟨turnedAway.imp_right bounded.antisymm, rfl⟩
  | ignores about => cases about
  | ends about => cases about

theorem Follows.unheard (plant : Plant) (about : event.connection? = some number)
    (notLive : number ∉ trace.live) :
    listener.step plant event = (.unheard, listener, plant) := by
  have isClosed : listener.connections.waiting? number = none := by
    rwa [← Option.not_isSome_iff_eq_none, follows.waiting?_isSome_iff]
  have does := follows.does_next accepting plant event
  generalize listener.step plant event = result at does ⊢
  cases does with
  | admits | refuses => cases about
  | ignores => rfl
  | serves isOpen =>
      obtain rfl := Option.some.inj about
      rw [isClosed] at isOpen
      contradiction
  | ends aboutOther isOpen =>
      obtain rfl := Option.some.inj (about.symm.trans aboutOther)
      rw [isClosed] at isOpen
      contradiction

/-- An event on a live connection ends it and frees its slot, or leaves it in its slot. -/
theorem Follows.heard (hears : Hears trace listener) (plant : Plant)
    (about : event.connection? = some number) (isLive : number ∈ trace.live) :
    ∃ replies next after,
      (event.Ends (trace.stream number) ∧ next.connections.live + 1 = trace.live.length ∧
          listener.step plant event = (.served replies false, next, after)) ∨
        (¬event.Ends (trace.stream number) ∧ next.connections.live = trace.live.length ∧
          listener.step plant event = (.served replies true, next, after)) := by
  obtain ⟨waiting, isOpen⟩ := Option.isSome_iff_exists.1 (follows.waiting?_isSome_iff.2 isLive)
  obtain ⟨messages, sent⟩ := hears.waiting number waiting isOpen
  rw [sent, ListenerEvent.ends_append_iff]
  have does := follows.does_next accepting plant event
  generalize listener.step plant event = result at does ⊢
  cases does with
  | admits | refuses => cases about
  | ignores aboutOther isClosed =>
      obtain rfl := Option.some.inj (about.symm.trans aboutOther)
      rw [isClosed] at isOpen
      contradiction
  | @serves other bytes before served wasOpen served_eq goesOn =>
      obtain rfl := Option.some.inj about
      obtain rfl := Option.some.inj (isOpen.symm.trans wasOpen)
      refine ⟨_, _, _, .inr ⟨?_, ?_, rfl⟩⟩
      · rintro (_ | _ | ⟨_, malformed⟩)
        rw [← goesOn_serve_eq_false_iff, served_eq, goesOn] at malformed
        contradiction
      · rw [connections_withConnections, ← Net.Connections.length_numbers,
          Net.Connections.numbers_keep, Net.Connections.length_numbers, follows.length_live]
  | @ends _ other before replies after aboutOther wasOpen ends samePeers =>
      obtain rfl := Option.some.inj (about.symm.trans aboutOther)
      obtain rfl := Option.some.inj (isOpen.symm.trans wasOpen)
      exact ⟨replies, _, after, .inl ⟨ends, follows.length_drop isLive, rfl⟩⟩

/-- The filter and the limit decide who is admitted, and nothing else does. -/
theorem Follows.admission (hears : Hears trace listener) (counts : Counts begun trace plant) :
    Admission start.filter start.limit begun trace listener plant where
  admittedOnce := follows.admittedOnce
  endedOnce := follows.endedOnce
  endedAdmitted := follows.endedAdmitted
  slots := follows.length_live.symm
  conserved := follows.conserved
  bounded := follows.bounded
  refuses := by
    intro peer
    rcases follows.arrival accepting plant peer with
      ⟨allowed, free, admitted⟩ | ⟨turnedAway, refused⟩
    · rw [admitted, allowed]
      simp [free.ne]
    · rw [refused]
      exact iff_of_true rfl turnedAway
  turnsAway := by
    intro peer isRefused
    rcases follows.arrival accepting plant peer with ⟨-, -, admitted⟩ | ⟨-, refused⟩
    · rw [admitted] at isRefused
      contradiction
    · rw [refused]
  admits := by
    intro peer notRefused
    rcases follows.arrival accepting plant peer with ⟨-, -, admitted⟩ | ⟨-, refused⟩
    · refine ⟨_, _, follows.opened_not_mem_admitted, ?_, admitted⟩
      rw [follows.length_live]
      rfl
    · rw [refused] at notRefused
      contradiction
  ignores := fun event number about notLive => follows.unheard accepting plant about notLive
  frees := by
    intro event number about isLive ends
    obtain ⟨replies, next, after, ⟨-, freed, stepped⟩ | ⟨notEnds, -⟩⟩ :=
      follows.heard accepting hears plant about isLive
    · exact ⟨replies, next, after, freed, stepped⟩
    · contradiction
  keeps := by
    intro event number about isLive notEnds
    obtain ⟨replies, next, after, ⟨ends, -⟩ | ⟨-, kept, stepped⟩⟩ :=
      follows.heard accepting hears plant about isLive
    · contradiction
    · exact ⟨replies, next, after, kept, stepped⟩
  answered := counts.answered
  counted := counts.peers
  total := counts.total

end Next

/-- Whoever comes and whatever ends, in any order: the live connections are within the limit, a
peer is refused exactly if the filter keeps it out or no slot is free, every connection that ends
gives its slot back, and every peer is counted. -/
theorem admission_of_run (resolver : Resolver) (filter : Access.IpFilter) (limit : Nat)
    (begun : Plant) (events : List ListenerEvent) :
    let start : Listener := { resolver := resolver, filter := filter, limit := limit }
    (run start begun events).1.map Prod.fst = events ∧
      Admission filter limit begun (run start begun events).1 (run start begun events).2.1
        (run start begun events).2.2 := by
  intro start
  obtain ⟨follows, hears, counts⟩ := invariant_run start rfl rfl begun events
  exact ⟨map_fst_run start begun events, follows.admission rfl hears counts⟩

/-- With one slot, a peer is refused until the connection before it has broken. -/
example (plant : Plant) :
    (sequence protocol.hear [.arrival (.v4 1), .arrival (.v4 2), .broken 0, .arrival (.v4 3)]
        ({ resolver := .defaultMemory, limit := 1 }, plant)).1 =
      [.admitted 0, .refused, .served [] false, .admitted 1] := rfl

end Listener

end Modbus

end RegisterGateway
