import NetGuardian.ExecuteLoop
import NetGuardian.Foundation.LineReader
import NetGuardian.Foundation.LogSimulation
import NetGuardian.Ipc

/-!
# The IPC server

`serve` accepts connections and drains its receiver in one `select!`, and answers
every connection in a task of its own.  A connection is read line by line, in bytes,
whatever pieces they arrive in.  All connections publish on the one bus.  A task that
panics in `collect_status` or in `snapshot` ends its own connection without a reply.
-/

namespace NetGuardian

open LabelledRun

/-- The byte that ends a line. -/
def newline : UInt8 := 10

/-- The text of a line that `read_line` has read, if it is UTF-8. -/
def readUtf8 (line : List UInt8) : Option String :=
  String.fromUTF8? ⟨line.toArray⟩

/-- A request as it was served: what the server knew, and the line. -/
abbrev IpcRequest := IpcSources × String

/-- One connection.  `sent` is everything that the client has written, and
`arrived` the part of it behind the lines that were answered. -/
structure IpcConnection where
  sent : List UInt8
  arrived : List UInt8
  hungUp : Bool
  failed : Bool
  panicked : Bool
  ended : Bool
  replies : List String
deriving DecidableEq

namespace IpcConnection

def opened : IpcConnection where
  sent := []
  arrived := []
  hungUp := false
  failed := false
  panicked := false
  ended := false
  replies := []

/-- What `read_line` gets: a line with its ending, or at the end of the input what
is left. -/
def readLine (connection : IpcConnection) : Option (List UInt8 × List UInt8) :=
  match LineReader.takeLine newline connection.arrived with
  | some found => some found
  | none => if connection.hungUp then some (connection.arrived, []) else none

def close (connection : IpcConnection) : IpcConnection :=
  { connection with ended := true }

/-- The task is gone, and the stream is dropped with it. -/
def panic (connection : IpcConnection) : IpcConnection :=
  { connection with panicked := true, ended := true }

/-- One turn of the task: a line is read and answered, unless the answer panics. -/
def serve (connection : IpcConnection) (sources : IpcSources) (panics : IpcPanics) :
    Option (IpcConnection × List IpcRequest) :=
  if connection.ended then none
  else
    match connection.readLine with
    | none => none
    | some ([], _) => some (connection.close, [])
    | some (line, rest) =>
        match readUtf8 line with
        | none => some (connection.close, [])
        | some text =>
            match IpcServer.answer sources panics text with
            | none => some (connection.panic, [])
            | some response =>
                some ({ connection with
                  arrived := rest
                  replies := connection.replies ++ [response.reply.render] },
                  [(sources, text)])

end IpcConnection

/-- The server with the bus it listens to.  `accepting` and `receiving` are the
branches of the `select!` that have not failed in this round, and `log` has the
requests in the order they were served, with their connections. -/
structure IpcListener where
  bus : EventBus
  receiver : Broadcast.Receiver NetGuardianEvent
  accepting : Bool
  receiving : Bool
  ended : Bool
  connections : List IpcConnection
  log : List (Nat × IpcRequest)

inductive IpcLabel where
  | publish (event : NetGuardianEvent)
  | accept
  | acceptFails
  | receive
  | write (index : Nat) (bytes : List UInt8)
  | hangUp (index : Nat)
  | readFails (index : Nat)
  | serve (index : Nat) (sources : IpcSources) (panics : IpcPanics)

namespace IpcListener

/-- The server right after it has subscribed. -/
def listen (bus : EventBus) : IpcListener where
  bus := bus
  receiver := Broadcast.subscribe bus.published
  accepting := true
  receiving := true
  ended := false
  connections := []
  log := []

def publish (listener : IpcListener) (events : List NetGuardianEvent) :
    IpcListener :=
  { listener with
    bus := listener.bus.publishAll events
    receiver := Broadcast.publish EventBus.capacity listener.bus.published events
      listener.receiver }

/-- A connection does something that no other task sees. -/
def update (listener : IpcListener) (index : Nat)
    (change : IpcConnection → Option IpcConnection) : Option IpcListener :=
  match listener.connections[index]? with
  | none => none
  | some connection =>
      (change connection).map fun changed =>
        { listener with connections := listener.connections.set index changed }

def step (listener : IpcListener) : IpcLabel → Option IpcListener
  | .publish event => some (listener.publish [event])
  | .accept =>
      if listener.ended = false ∧ listener.accepting = true then
        some { listener with
          accepting := true
          receiving := true
          connections := listener.connections ++ [.opened] }
      else none
  | .acceptFails =>
      if listener.ended = false ∧ listener.accepting = true then
        some { listener with accepting := false, ended := !listener.receiving }
      else none
  | .receive =>
      if listener.ended = false ∧ listener.receiving = true then
        let received := Broadcast.receive EventBus.capacity listener.bus.published
          listener.receiver
        match received.1 with
        | .empty => none
        | .event _ =>
            some { listener with
              receiver := received.2
              accepting := true
              receiving := true }
        | .lagged _ =>
            some { listener with
              receiver := received.2
              receiving := false
              ended := !listener.accepting }
      else none
  | .write index bytes =>
      listener.update index fun connection =>
        if connection.ended || connection.hungUp then none
        else some { connection with
          sent := connection.sent ++ bytes
          arrived := connection.arrived ++ bytes }
  | .hangUp index =>
      listener.update index fun connection =>
        some { connection with hungUp := true }
  | .readFails index =>
      listener.update index fun connection =>
        if connection.ended then none
        else some { connection with failed := true, ended := true }
  | .serve index sources panics =>
      match listener.connections[index]? with
      | none => none
      | some connection =>
          (connection.serve sources panics).map fun served =>
            { listener.publish (served.2.flatMap fun request =>
                (IpcServer.dispatch request.1 request.2).events) with
              connections := listener.connections.set index served.1
              log := listener.log ++ served.2.map fun request => (index, request) }

/-- The requests that were served on one connection. -/
def requestsOf (listener : IpcListener) (index : Nat) : List IpcRequest :=
  (listener.log.filter fun entry => entry.1 = index).map Prod.snd

end IpcListener

namespace IpcConnection

/-- A line ends its connection: it is no text, or its answer has panicked. -/
def Unanswerable (connection : IpcConnection) (line : List UInt8) : Prop :=
  readUtf8 line = none ∨ connection.panicked = true ∧
    ∃ text, readUtf8 line = some text ∧ IpcServer.Measures text

/-- How far a connection has come with what its client has sent. -/
structure Progress (connection : IpcConnection) (requests : List IpcRequest) :
    Prop where
  replies : connection.replies = requests.map fun request =>
    (IpcServer.dispatch request.1 request.2).reply.render
  read : ∃ read : List (List UInt8),
    read.map readUtf8 = requests.map (fun request => some request.2) ∧
      connection.sent = read.flatten ++ connection.arrived ∧
      ((∀ line ∈ read, LineReader.IsEnded newline line) ∨
        connection.hungUp = true ∧ connection.arrived = [] ∧
          ∃ lines last, read = lines ++ [last] ∧
            (∀ line ∈ lines, LineReader.IsEnded newline line) ∧
            newline ∉ last ∧ last ≠ [])
  closed : connection.ended = true → connection.failed = true ∨
    (connection.hungUp = true ∧ connection.arrived = []) ∨
    ∃ line rest, connection.readLine = some (line, rest) ∧ line ≠ [] ∧
      connection.Unanswerable line

/-- The lines that the client has sent, the last one perhaps without an ending. -/
def lines (connection : IpcConnection) : List (List UInt8) :=
  LineReader.lines newline connection.hungUp connection.sent

/-- The requests are the first lines of what the client has sent, and the replies
are theirs.  An open connection has all other lines before it.  A closed one has
none left, could not read one, found one that is not UTF-8, or has panicked in the
answer to one that asks for the status or for figures of the metrics. -/
structure Answered (connection : IpcConnection) (requests : List IpcRequest) :
    Prop where
  replies : connection.replies = requests.map fun request =>
    (IpcServer.dispatch request.1 request.2).reply.render
  lines : ∃ read rest, connection.lines = read ++ rest ∧
    read.map readUtf8 = requests.map (fun request => some request.2) ∧
    (connection.ended = false →
      rest = LineReader.lines newline connection.hungUp connection.arrived) ∧
    (connection.ended = true → connection.failed = true ∨ rest = [] ∨
      ∃ line more, rest = line :: more ∧ connection.Unanswerable line)

variable {connection next : IpcConnection} {requests : List IpcRequest}

theorem progress_opened : opened.Progress [] where
  replies := rfl
  read := ⟨[], rfl, rfl, .inl (by simp)⟩
  closed ended := by cases ended

theorem Progress.write (progress : connection.Progress requests)
    (goesOn : connection.ended = false) (here : connection.hungUp = false)
    (bytes : List UInt8) :
    Progress { connection with
      sent := connection.sent ++ bytes
      arrived := connection.arrived ++ bytes } requests where
  replies := progress.replies
  read := by
    obtain ⟨read, texts, sent, ended | ⟨gone, _⟩⟩ := progress.read
    · refine ⟨read, texts, ?_, .inl ended⟩
      change connection.sent ++ bytes = _
      rw [sent, List.append_assoc]
    · rw [here] at gone
      cases gone
  closed ended := by
    rw [show connection.ended = true from ended] at goesOn
    cases goesOn

/-- A line that can be read is not changed by the end of the input. -/
theorem readLine_hangUp {line rest : List UInt8}
    (found : connection.readLine = some (line, rest)) :
    readLine { connection with hungUp := true } = some (line, rest) := by
  unfold readLine at found ⊢
  split at found
  · next here =>
      rw [here]
      exact found
  · next absent =>
      split at found
      · rw [absent]
        exact found
      · cases found

theorem Progress.hangUp (progress : connection.Progress requests) :
    Progress { connection with hungUp := true } requests where
  replies := progress.replies
  read := by
    obtain ⟨read, texts, sent, ended | ⟨_, last⟩⟩ := progress.read
    · exact ⟨read, texts, sent, .inl ended⟩
    · exact ⟨read, texts, sent, .inr ⟨rfl, last⟩⟩
  closed ended := by
    rcases progress.closed ended with failed | ⟨_, empty⟩ | ⟨line, rest, found, bad⟩
    · exact .inl failed
    · exact .inr (.inl ⟨rfl, empty⟩)
    · exact .inr (.inr ⟨line, rest, readLine_hangUp found, bad⟩)

theorem Progress.fails (progress : connection.Progress requests) :
    Progress { connection with failed := true, ended := true } requests where
  replies := progress.replies
  read := progress.read
  closed _ := .inl rfl

/-- What a reading splits off. -/
theorem readLine_eq_some {line rest : List UInt8}
    (found : connection.readLine = some (line, rest)) :
    connection.arrived = line ++ rest ∧
      (LineReader.IsEnded newline line ∨
        connection.hungUp = true ∧ rest = [] ∧ newline ∉ line) := by
  unfold readLine at found
  split at found
  · next here =>
      cases found
      obtain ⟨whole, ended⟩ := LineReader.takeLine_eq_some here
      exact ⟨whole, .inl ended⟩
  · next absent =>
      split at found
      · next gone =>
          cases found
          exact ⟨(List.append_nil _).symm,
            .inr ⟨gone, rfl, LineReader.takeLine_eq_none.mp absent⟩⟩
      · cases found

/-- Everything a turn can do. -/
theorem serve_eq_some {sources : IpcSources} {panics : IpcPanics}
    {served : List IpcRequest}
    (taken : connection.serve sources panics = some (next, served)) :
    connection.ended = false ∧ ∃ line rest,
      connection.readLine = some (line, rest) ∧
        ((next = connection.close ∧ served = [] ∧
            (line = [] ∨ line ≠ [] ∧ readUtf8 line = none)) ∨
          (next = connection.panic ∧ served = [] ∧ line ≠ [] ∧
            ∃ text, readUtf8 line = some text ∧ IpcServer.Measures text) ∨
          ∃ text, line ≠ [] ∧ readUtf8 line = some text ∧
            served = [(sources, text)] ∧
            next = { connection with
              arrived := rest
              replies := connection.replies ++
                [(IpcServer.dispatch sources text).reply.render] }) := by
  unfold serve at taken
  split at taken
  · cases taken
  · next goesOn =>
      refine ⟨by simpa using goesOn, ?_⟩
      split at taken
      · cases taken
      · next rest found =>
          cases taken
          exact ⟨[], rest, found, .inl ⟨rfl, rfl, .inl rfl⟩⟩
      · next line rest nonempty found =>
          have solid : line ≠ [] := fun empty => nonempty empty
          refine ⟨line, rest, found, ?_⟩
          split at taken
          · next unreadable =>
              cases taken
              exact .inl ⟨rfl, rfl, .inr ⟨solid, unreadable⟩⟩
          · next text readable =>
              rcases IpcServer.answer_cases sources panics text with
                answered | ⟨panicked, measures⟩
              · rw [answered] at taken
                cases taken
                exact .inr (.inr ⟨text, solid, readable, rfl, rfl⟩)
              · rw [panicked] at taken
                cases taken
                exact .inr (.inl ⟨rfl, rfl, solid, text, readable, measures⟩)

theorem Progress.serve {sources : IpcSources} {panics : IpcPanics}
    {served : List IpcRequest} (progress : connection.Progress requests)
    (taken : connection.serve sources panics = some (next, served)) :
    next.Progress (requests ++ served) := by
  obtain ⟨goesOn, line, rest, found, outcome⟩ := serve_eq_some taken
  obtain ⟨whole, how⟩ := readLine_eq_some found
  rcases outcome with ⟨rfl, rfl, why⟩ | ⟨rfl, rfl, solid, measured⟩ |
    ⟨text, solid, readable, rfl, rfl⟩
  · rw [List.append_nil]
    refine ⟨progress.replies, progress.read, fun _ => .inr ?_⟩
    rcases why with rfl | ⟨solid, unreadable⟩
    · rcases how with ⟨body, _, empty⟩ | ⟨gone, rfl, _⟩
      · cases body <;> cases empty
      · exact .inl ⟨gone, whole⟩
    · exact .inr ⟨line, rest, found, solid, .inl unreadable⟩
  · rw [List.append_nil]
    exact ⟨progress.replies, progress.read, fun _ =>
      .inr (.inr ⟨line, rest, found, solid, .inr ⟨rfl, measured⟩⟩)⟩
  · obtain ⟨read, texts, sent, before | ⟨_, empty, _⟩⟩ := progress.read
    · refine ⟨?_, ⟨read ++ [line], ?_, ?_, ?_⟩, fun ended => ?_⟩
      · rw [List.map_append, ← progress.replies]
        rfl
      · rw [List.map_append, List.map_append, texts, List.map_singleton, readable]
        rfl
      · change connection.sent = _
        rw [sent, whole, List.flatten_append, List.flatten_singleton,
          List.append_assoc]
      · rcases how with isEnded | ⟨gone, noRest, free⟩
        · left
          intro other member
          rcases List.mem_append.mp member with old | new
          · exact before other old
          · rw [List.mem_singleton.mp new]
            exact isEnded
        · exact .inr ⟨gone, noRest, read, line, rfl, before, free, solid⟩
      · rw [show connection.ended = true from ended] at goesOn
        cases goesOn
    · rw [empty] at whole
      exact absurd (List.append_eq_nil_iff.mp whole.symm).1 solid

theorem Progress.answered (progress : connection.Progress requests) :
    connection.Answered requests where
  replies := progress.replies
  lines := by
    obtain ⟨read, texts, sent, before | ⟨gone, empty, lines, last, rfl, before, free,
      solid⟩⟩ := progress.read
    · refine ⟨read, LineReader.lines newline connection.hungUp connection.arrived,
        ?_, texts, fun _ => rfl, fun ended => ?_⟩
      · rw [IpcConnection.lines, sent]
        exact LineReader.lines_flatten_append before
      · rcases progress.closed ended with failed | ⟨gone, empty⟩ |
          ⟨line, rest, found, solid, unreadable⟩
        · exact .inl failed
        · rw [empty]
          exact .inr (.inl LineReader.lines_nil)
        · obtain ⟨whole, how⟩ := readLine_eq_some found
          refine .inr (.inr ?_)
          rcases how with isEnded | ⟨gone, rfl, free⟩
          · refine ⟨line, LineReader.lines newline connection.hungUp rest, ?_,
              unreadable⟩
            rw [whole]
            have first := @LineReader.lines_flatten_append _ newline _ rest [line]
              connection.hungUp (by simpa using isEnded)
            simpa using first
          · refine ⟨line, [], ?_, unreadable⟩
            rw [whole, List.append_nil, LineReader.lines_of_notMem free,
              if_pos ⟨gone, solid⟩]
    · refine ⟨lines ++ [last], [], ?_, texts, fun _ => ?_, fun _ => .inr (.inl rfl)⟩
      · rw [IpcConnection.lines, sent, empty, List.append_nil, List.append_nil,
          List.flatten_append, List.flatten_singleton,
          LineReader.lines_flatten_append before, LineReader.lines_of_notMem free,
          if_pos ⟨gone, solid⟩]
      · rw [empty, LineReader.lines_nil]

end IpcConnection

/-- A request publishes control events only. -/
theorem IpcServer.isControl_of_mem_dispatch {sources : IpcSources} {line : String}
    {event : NetGuardianEvent} (member : event ∈ (dispatch sources line).events) :
    event.isControl = true := by
  by_cases plain : ∀ command : ControlCommand, ¬ command.pattern <+: trimLine line
  · rw [(dispatch_of_not_starts plain).1] at member
    cases member
  · push Not at plain
    obtain ⟨command, starts⟩ := plain
    rw [dispatch_of_starts starts, control] at member
    rw [List.mem_singleton.mp member]
    cases command <;> rfl

namespace IpcListener

/-- The other tasks of the daemon publish no control events. -/
def OthersReport (_ : IpcListener) : IpcLabel → Prop
  | .publish event => event.isControl = false
  | _ => True

/-- The events that the requests ask for, in the order they were served. -/
def asked (listener : IpcListener) : List NetGuardianEvent :=
  listener.log.flatMap fun entry =>
    (IpcServer.dispatch entry.2.1 entry.2.2).events

/-- Every connection is as far as its requests, and the control events on the bus
are the ones that were asked for. -/
structure Serving (bus : EventBus) (listener : IpcListener) : Prop where
  progress : ∀ (index : Nat) (connection : IpcConnection),
    listener.connections[index]? = some connection →
      connection.Progress (listener.requestsOf index)
  unused : ∀ index, listener.connections.length ≤ index →
    listener.requestsOf index = []
  control : listener.bus.published.filter NetGuardianEvent.isControl =
    bus.published.filter NetGuardianEvent.isControl ++ listener.asked

section Step

variable {bus : EventBus} {listener next : IpcListener} {label : IpcLabel}

theorem requestsOf_append (served : List IpcRequest) (index other : Nat) :
    (({ listener with
        log := listener.log ++ served.map fun request => (index, request) }
        : IpcListener).requestsOf other) =
      listener.requestsOf other ++ if other = index then served else [] := by
  simp only [requestsOf, List.filter_append, List.map_append, List.filter_map,
    List.map_map]
  by_cases same : other = index
  · subst same
    simp [Function.comp_def]
  · simp [Function.comp_def, same, Ne.symm same]

/-- A step that only touches the `select!`, or adds a connection. -/
theorem Serving.listens (serving : listener.Serving bus)
    (more : List IpcConnection)
    (fresh : ∀ connection ∈ more, connection = .opened)
    (connections : next.connections = listener.connections ++ more)
    (log : next.log = listener.log) (sameBus : next.bus = listener.bus) :
    next.Serving bus := by
  have requests : next.requestsOf = listener.requestsOf := by
    funext index
    rw [requestsOf, requestsOf, log]
  refine ⟨?_, ?_, ?_⟩
  · intro index connection here
    rw [requests]
    rw [connections] at here
    rcases Nat.lt_or_ge index listener.connections.length with below | above
    · rw [List.getElem?_append_left below] at here
      exact serving.progress index connection here
    · rw [List.getElem?_append_right above] at here
      rw [fresh connection (List.mem_of_getElem? here), serving.unused index above]
      exact IpcConnection.progress_opened
  · intro index above
    rw [requests]
    rw [connections, List.length_append] at above
    exact serving.unused index (by omega)
  · rw [sameBus, asked, log]
    exact serving.control

/-- A step of one connection. -/
theorem Serving.connection {index : Nat} {connection changed : IpcConnection}
    (serving : listener.Serving bus) (served : List IpcRequest)
    (here : listener.connections[index]? = some connection)
    (progress : connection.Progress (listener.requestsOf index) →
      changed.Progress (listener.requestsOf index ++ served))
    (connections : next.connections = listener.connections.set index changed)
    (log : next.log = listener.log ++ served.map fun request => (index, request))
    (published : next.bus.published = listener.bus.published ++
      served.flatMap fun request =>
        (IpcServer.dispatch request.1 request.2).events) :
    next.Serving bus := by
  have requests : ∀ other, next.requestsOf other =
      listener.requestsOf other ++ if other = index then served else [] := by
    intro other
    rw [← requestsOf_append, requestsOf, requestsOf, log]
  obtain ⟨below, _⟩ := List.getElem?_eq_some_iff.mp here
  refine ⟨?_, ?_, ?_⟩
  · intro other current there
    rw [connections] at there
    rw [requests]
    by_cases same : index = other
    · subst same
      rw [List.getElem?_set_self below] at there
      cases there
      rw [if_pos rfl]
      exact progress (serving.progress index connection here)
    · rw [List.getElem?_set_ne same] at there
      rw [if_neg (Ne.symm same), List.append_nil]
      exact serving.progress other current there
  · intro other above
    rw [connections, List.length_set] at above
    rw [requests, serving.unused other above, if_neg (by omega)]
    rfl
  · have all : (served.flatMap fun request =>
        (IpcServer.dispatch request.1 request.2).events).filter
          NetGuardianEvent.isControl =
        served.flatMap fun request =>
          (IpcServer.dispatch request.1 request.2).events := by
      refine List.filter_eq_self.mpr fun event member => ?_
      obtain ⟨request, _, here⟩ := List.mem_flatMap.mp member
      exact IpcServer.isControl_of_mem_dispatch here
    rw [published, List.filter_append, all, serving.control, asked, asked, log,
      List.flatMap_append, List.append_assoc, List.flatMap_map]

theorem update_eq_some {index : Nat}
    {change : IpcConnection → Option IpcConnection}
    (taken : listener.update index change = some next) :
    ∃ connection changed, listener.connections[index]? = some connection ∧
      change connection = some changed ∧
      next = { listener with
        connections := listener.connections.set index changed } := by
  unfold update at taken
  split at taken
  · cases taken
  · next connection here =>
      obtain ⟨changed, become, same⟩ := Option.map_eq_some_iff.mp taken
      exact ⟨connection, changed, here, become, same.symm⟩

theorem step_accept (taken : listener.step .accept = some next) :
    next = { listener with
      accepting := true
      receiving := true
      connections := listener.connections ++ [.opened] } := by
  rw [IpcListener.step] at taken
  split at taken
  · cases taken
    rfl
  · cases taken

theorem step_acceptFails (taken : listener.step .acceptFails = some next) :
    next = { listener with accepting := false, ended := !listener.receiving } := by
  rw [IpcListener.step] at taken
  split at taken
  · cases taken
    rfl
  · cases taken

/-- With an event both branches are waited for again; a lag switches the receiver off. -/
theorem step_receive (taken : listener.step .receive = some next) :
    ∃ receiver,
      next = { listener with
        receiver := receiver
        accepting := true
        receiving := true } ∨
      next = { listener with
        receiver := receiver
        receiving := false
        ended := !listener.accepting } := by
  rw [IpcListener.step] at taken
  split at taken
  · dsimp only at taken
    split at taken
    · cases taken
    · cases taken
      exact ⟨_, .inl rfl⟩
    · cases taken
      exact ⟨_, .inr rfl⟩
  · cases taken

theorem step_serve {index : Nat} {sources : IpcSources} {panics : IpcPanics}
    (taken : listener.step (.serve index sources panics) = some next) :
    ∃ connection changed requests, listener.connections[index]? = some connection ∧
      connection.serve sources panics = some (changed, requests) ∧
      next = { listener.publish (requests.flatMap fun request =>
          (IpcServer.dispatch request.1 request.2).events) with
        connections := listener.connections.set index changed
        log := listener.log ++ requests.map fun request => (index, request) } := by
  rw [IpcListener.step] at taken
  split at taken
  · cases taken
  · next connection here =>
      obtain ⟨⟨changed, requests⟩, turn, same⟩ := Option.map_eq_some_iff.mp taken
      exact ⟨connection, changed, requests, here, turn, same.symm⟩

theorem Serving.step (serving : listener.Serving bus)
    (others : listener.OthersReport label)
    (taken : listener.step label = some next) : next.Serving bus := by
  cases label with
  | publish event =>
      cases taken
      refine ⟨serving.progress, serving.unused, ?_⟩
      change (listener.bus.published ++ [event]).filter _ = _
      rw [List.filter_append, serving.control, List.filter_singleton]
      simp [show event.isControl = false from others, asked, publish]
  | accept =>
      cases step_accept taken
      exact serving.listens [.opened] (by simp) rfl rfl rfl
  | acceptFails =>
      cases step_acceptFails taken
      exact serving.listens [] (by simp) (List.append_nil _).symm rfl rfl
  | receive =>
      obtain ⟨receiver, rfl | rfl⟩ := step_receive taken
      · exact serving.listens [] (by simp) (List.append_nil _).symm rfl rfl
      · exact serving.listens [] (by simp) (List.append_nil _).symm rfl rfl
  | write index bytes =>
      obtain ⟨connection, changed, here, become, rfl⟩ := update_eq_some taken
      split at become
      · cases become
      · next goesOn =>
          cases become
          rw [Bool.not_eq_true, Bool.or_eq_false_iff] at goesOn
          refine serving.connection [] here (fun progress => ?_) rfl
            (List.append_nil _).symm (List.append_nil _).symm
          rw [List.append_nil]
          exact progress.write goesOn.1 goesOn.2 bytes
  | hangUp index =>
      obtain ⟨connection, changed, here, become, rfl⟩ := update_eq_some taken
      cases become
      refine serving.connection [] here (fun progress => ?_) rfl
        (List.append_nil _).symm (List.append_nil _).symm
      rw [List.append_nil]
      exact progress.hangUp
  | readFails index =>
      obtain ⟨connection, changed, here, become, rfl⟩ := update_eq_some taken
      split at become
      · cases become
      · cases become
        refine serving.connection [] here (fun progress => ?_) rfl
          (List.append_nil _).symm (List.append_nil _).symm
        rw [List.append_nil]
        exact progress.fails
  | serve index sources panics =>
      obtain ⟨connection, changed, requests, here, turn, rfl⟩ := step_serve taken
      exact serving.connection _ here (fun progress => progress.serve turn) rfl rfl rfl

/-- As long as no `accept` fails, the server goes on. -/
theorem accepting_step (goesOn : listener.ended = false ∧ listener.accepting = true)
    (accepts : label ≠ .acceptFails) (taken : listener.step label = some next) :
    next.ended = false ∧ next.accepting = true := by
  cases label with
  | acceptFails => exact absurd rfl accepts
  | publish event =>
      cases taken
      exact goesOn
  | accept =>
      cases step_accept taken
      exact ⟨goesOn.1, rfl⟩
  | receive =>
      obtain ⟨receiver, rfl | rfl⟩ := step_receive taken
      · exact ⟨goesOn.1, rfl⟩
      · exact ⟨by rw [goesOn.2]; rfl, goesOn.2⟩
  | write index bytes | hangUp index | readFails index =>
      obtain ⟨_, _, _, _, rfl⟩ := update_eq_some taken
      exact goesOn
  | serve index sources panics =>
      obtain ⟨_, _, _, _, _, rfl⟩ := step_serve taken
      exact goesOn

end Step

theorem accepting_run {guard : IpcListener → IpcLabel → Prop} {bus : EventBus}
    {labels : List IpcLabel} {listener : IpcListener}
    (run : Guarded step guard (listen bus) labels listener)
    (accepts : .acceptFails ∉ labels) :
    listener.ended = false ∧ listener.accepting = true := by
  induction run with
  | start => exact ⟨rfl, rfl⟩
  | extend before _ taken ih =>
      rw [List.mem_append, not_or, List.mem_singleton] at accepts
      exact accepting_step (ih accepts.1) (Ne.symm accepts.2) taken

theorem serving_run {bus : EventBus} {labels : List IpcLabel} {listener : IpcListener}
    (run : Guarded step OthersReport (listen bus) labels listener) :
    listener.Serving bus := by
  refine run.invariant (Serving bus) ⟨?_, fun _ _ => rfl, ?_⟩
    fun _ _ _ serving others taken => serving.step others taken
  · intro index connection here
    cases here
  · exact (List.append_nil _).symm

/-- In every interleaving of any number of connections with each other and with
the other tasks: the requests served on a connection are the first lines that its
client has sent, in whatever pieces, each with its one reply, and a connection ends
early only where it cannot be read or where the answer to a line panics.  The control
events on the bus are the ones that were asked for, in the order of the requests.
And however far the server falls behind the bus, it goes on to accept as long as
`accept` itself does not fail. -/
theorem lines_answered_in_order {bus : EventBus} {labels : List IpcLabel}
    {listener : IpcListener}
    (others : ∀ event, .publish event ∈ labels → event.isControl = false)
    (run : Run step (listen bus) labels listener) :
    (∀ (index : Nat) (connection : IpcConnection),
      listener.connections[index]? = some connection →
        connection.Answered (listener.requestsOf index)) ∧
      listener.bus.published.filter NetGuardianEvent.isControl =
        bus.published.filter NetGuardianEvent.isControl ++ listener.asked ∧
      (.acceptFails ∉ labels →
        listener.ended = false ∧ listener.accepting = true) := by
  have guarded : Guarded step OthersReport (listen bus) labels listener := by
    refine guarded_of_forall run fun label member state => ?_
    cases label with
    | publish event => exact others event member
    | _ => trivial
  have serving := serving_run guarded
  exact ⟨fun index connection here =>
    (serving.progress index connection here).answered, serving.control,
    accepting_run run⟩

/-- Three clients whose bytes arrive in pieces.  The second one hangs up in the middle
of a line; the third one asks for `health` while a task is inside the metrics
engine. -/
def threeClients : List IpcLabel :=
  [.accept, .accept, .write 0 [112, 105], .write 1 [99, 97, 110, 99, 101, 108, 95],
    .write 0 [110, 103, 10, 112], .serve 0 IpcServer.silentSources IpcServer.noPanics,
    .publish .internetLost, .write 1 [106, 111, 98, 32, 55], .accept,
    .write 2 [104, 101, 97, 108, 116, 104, 10], .hangUp 1,
    .serve 2 IpcServer.silentSources ⟨false, true⟩,
    .serve 1 IpcServer.silentSources ⟨false, true⟩, .receive]

theorem lines_answered_in_order_three_clients :
    ∃ listener, Run step (listen .new) threeClients listener ∧
      listener.connections.map IpcConnection.replies =
        [["pong\n"], ["\x7b\"status\":\"cancel_requested\"\x7d\n"], []] ∧
      (∀ (index : Nat) (connection : IpcConnection),
        listener.connections[index]? = some connection →
          connection.Answered (listener.requestsOf index)) ∧
      listener.bus.published.filter NetGuardianEvent.isControl =
        listener.asked ∧
      (.acceptFails ∉ threeClients →
        listener.ended = false ∧ listener.accepting = true) := by
  have run : Run step (listen .new) threeClients _ := run_of_exec_eq rfl
  refine ⟨_, run, by decide +kernel, ?_⟩
  refine lines_answered_in_order ?_ run
  intro event member
  simp [threeClients] at member
  rw [member]
  rfl

end IpcListener

end NetGuardian
