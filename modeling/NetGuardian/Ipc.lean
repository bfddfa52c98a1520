import NetGuardian.EventBus
import NetGuardian.Foundation.PlainText

/-!
# The Unix socket interface

A client sends lines of text; each is trimmed, dispatched and answered.  The
three control commands publish an event with the id of a job.  The texts of the
longer answers are made by serializers and are arguments here.
-/

namespace NetGuardian

/-- `char::is_whitespace`, the Unicode property `White_Space`. -/
def isWhitespace (letter : Char) : Bool :=
  let code := letter.toNat
  decide ((0x9 ≤ code ∧ code ≤ 0xD) ∨ code = 0x20 ∨ code = 0x85 ∨
    code = 0xA0 ∨ code = 0x1680 ∨ (0x2000 ≤ code ∧ code ≤ 0x200A) ∨
    code = 0x2028 ∨ code = 0x2029 ∨ code = 0x202F ∨ code = 0x205F ∨
    code = 0x3000)

/-- The three commands that control a job. -/
inductive ControlCommand where
  | pause
  | resume
  | cancel
deriving DecidableEq

namespace ControlCommand

/-- The text the command starts with, its space included. -/
def pattern : ControlCommand → List Char
  | pause => "pause_job ".toList
  | resume => "resume_job ".toList
  | cancel => "cancel_job ".toList

def event (command : ControlCommand) (jobId : Nat) : NetGuardianEvent :=
  match command with
  | pause => .jobControlPause jobId
  | resume => .jobControlResume jobId
  | cancel => .jobControlCancel jobId

def requested : ControlCommand → String
  | pause => "\x7b\"status\":\"pause_requested\"\x7d"
  | resume => "\x7b\"status\":\"resume_requested\"\x7d"
  | cancel => "\x7b\"status\":\"cancel_requested\"\x7d"

/-- The number that the guarded branches read from the whole command. -/
def parse (command : ControlCommand) (cmd : List Char) : Option Nat :=
  PlainText.parseUnsigned (2 ^ 64)
    (PlainText.trim isWhitespace
      (PlainText.stripRepeatedly command.pattern cmd))

def jobId (command : ControlCommand) (cmd : List Char) : Nat :=
  (command.parse cmd).getD 0

end ControlCommand

/-- What the rest of the program answers with at the time of a request, where the
calls that the request makes return. -/
structure IpcSources where
  collectStatus : Except String String
  metricsJson : String
  metricsPrometheus : String
  config : String
  uptimeSecs : Nat

inductive IpcReply where
  | status (text : String)
  | statusError (error : String)
  | metrics (text : String)
  | config (text : String)
  | pong
  | requested (command : ControlCommand)
  | health (uptimeSecs : Nat)
  | unknown (cmd : List Char)
deriving DecidableEq

/-- The line that is written back. -/
def IpcReply.render : IpcReply → String
  | status text => text ++ "\n"
  | statusError error => "\x7b\"error\": \"" ++ error ++ "\"\x7d\n"
  | metrics text => text ++ "\n"
  | config text => text ++ "\n"
  | pong => "pong\n"
  | requested command => command.requested ++ "\n"
  | health uptimeSecs =>
      "\x7b\"healthy\":true,\"status\":\"ok\",\"uptime_secs\":" ++
        toString uptimeSecs ++ ",\"version\":\"0.1.0\"\x7d\n"
  | unknown cmd =>
      "\x7b\"error\": \"unknown command: " ++ String.ofList cmd ++ "\"\x7d\n"

/-- The calls of a request that panic: `collect_status` where the route parser does,
and `snapshot` where another task is inside the metrics engine. -/
structure IpcPanics where
  collectStatus : Bool
  snapshot : Bool
deriving DecidableEq

structure IpcResponse where
  events : List NetGuardianEvent
  reply : IpcReply
deriving DecidableEq

namespace IpcServer

/-- A line without the white space at both ends. -/
def trimLine (line : String) : List Char :=
  PlainText.trim isWhitespace line.toList

def control (command : ControlCommand) (cmd : List Char) : IpcResponse where
  events := [command.event (command.jobId cmd)]
  reply := .requested command

def dispatch (sources : IpcSources) (line : String) : IpcResponse :=
  let cmd := trimLine line
  if cmd = "status".toList then
    match sources.collectStatus with
    | .ok text => ⟨[], .status text⟩
    | .error error => ⟨[], .statusError error⟩
  else if cmd = "metrics".toList ∨ cmd = "metrics/json".toList then
    ⟨[], .metrics sources.metricsJson⟩
  else if cmd = "metrics/prometheus".toList then
    ⟨[], .metrics sources.metricsPrometheus⟩
  else if cmd = "config".toList then ⟨[], .config sources.config⟩
  else if cmd = "ping".toList then ⟨[], .pong⟩
  else if ControlCommand.pause.pattern <+: cmd then control .pause cmd
  else if ControlCommand.resume.pattern <+: cmd then control .resume cmd
  else if ControlCommand.cancel.pattern <+: cmd then control .cancel cmd
  else if cmd = "health".toList then ⟨[], .health sources.uptimeSecs⟩
  else ⟨[], .unknown cmd⟩

/-- The commands that take a snapshot of the metrics. -/
def snapshotWords : List String :=
  ["metrics", "metrics/json", "metrics/prometheus", "health"]

/-- The lines whose answers can panic. -/
def Measures (line : String) : Prop :=
  trimLine line ∈ ("status" :: snapshotWords).map String.toList

/-- The answer to a line calls what panics. -/
def Panics (panics : IpcPanics) (line : String) : Prop :=
  (panics.collectStatus = true ∧ trimLine line = "status".toList) ∨
    (panics.snapshot = true ∧ trimLine line ∈ snapshotWords.map String.toList)

instance (panics : IpcPanics) (line : String) : Decidable (Panics panics line) :=
  inferInstanceAs (Decidable (_ ∨ _))

/-- The answer to a line, or nothing if the task panics on the way to it. -/
def answer (sources : IpcSources) (panics : IpcPanics) (line : String) :
    Option IpcResponse :=
  if Panics panics line then none else some (dispatch sources line)

/-- One connection, as long as nothing panics: every line is answered in turn. -/
def connection (bus : EventBus) (requests : List (IpcSources × String)) :
    EventBus × List String :=
  requests.foldl (fun served request =>
    let response := dispatch request.1 request.2
    (served.1.publishAll response.events,
      served.2 ++ [response.reply.render])) (bus, [])

end IpcServer

namespace ControlCommand

/-- The texts that name a job: the command with its space, further white space
and one numeral that fits in a `u64`. -/
def Names (command : ControlCommand) (jobId : Nat) (text : List Char) : Prop :=
  ∃ spaces numeral : List Char, text = command.pattern ++ (spaces ++ numeral) ∧
    (∀ letter ∈ spaces, isWhitespace letter) ∧
    PlainText.Numeral numeral jobId ∧ jobId < 2 ^ 64

variable {command other : ControlCommand} {jobId : Nat} {text : List Char}

theorem pattern_ne_nil (command : ControlCommand) : command.pattern ≠ [] := by
  cases command <;> decide

/-- The commands differ in their first letter. -/
theorem eq_of_prefix (starts : command.pattern <+: text)
    (otherStarts : other.pattern <+: text) : command = other := by
  have heads : command.pattern.head? = other.pattern.head? := by
    obtain ⟨rest, rfl⟩ := starts
    obtain ⟨otherRest, same⟩ := otherStarts
    have first := congrArg List.head? same
    rw [List.head?_append_of_ne_nil _ (pattern_ne_nil _),
      List.head?_append_of_ne_nil _ (pattern_ne_nil _)] at first
    exact first.symm
  revert heads
  cases command <;> cases other <;> decide

theorem Names.starts (names : command.Names jobId text) :
    command.pattern <+: text := by
  obtain ⟨spaces, numeral, rfl, _⟩ := names
  exact List.prefix_append _ _

theorem isWhitespace_of_isDigit {letter : Char} (digit : letter.isDigit) :
    ¬ isWhitespace letter := by
  simp only [Char.isDigit, Bool.and_eq_true, decide_eq_true_eq] at digit
  have low : 48 ≤ letter.toNat := digit.1
  have high : letter.toNat ≤ 57 := digit.2
  simp only [isWhitespace, decide_eq_true_eq]
  omega

/-- What follows a command in a text that names a job does not start with the
command again. -/
theorem not_prefix_of_numeral {spaces numeral : List Char}
    (blanks : ∀ letter ∈ spaces, isWhitespace letter)
    (reads : PlainText.Numeral numeral jobId) :
    ¬ command.pattern <+: spaces ++ numeral := by
  rintro ⟨rest, same⟩
  have first : ∃ letter, command.pattern.head? = some letter ∧
      ¬ letter.isDigit ∧ letter ≠ '+' ∧ ¬ isWhitespace letter := by
    cases command <;> exact ⟨_, rfl, by decide, by decide, by decide⟩
  obtain ⟨letter, head, notDigit, notPlus, solid⟩ := first
  have member : letter ∈ spaces ++ numeral := by
    rw [← same]
    exact List.mem_append_left _ (List.mem_of_head? head)
  rcases List.mem_append.mp member with inSpaces | inNumeral
  · exact solid (blanks letter inSpaces)
  · rcases reads.isDigit_or_plus inNumeral with digit | plus
    · exact notDigit digit
    · exact notPlus plus

/-- The id that is named is the id that is read. -/
theorem Names.parse_eq (names : command.Names jobId text) :
    command.parse text = some jobId := by
  obtain ⟨spaces, numeral, rfl, blanks, reads, fits⟩ := names
  have solid : ∀ letter ∈ numeral, ¬ isWhitespace letter := by
    intro letter member
    rcases reads.isDigit_or_plus member with digit | rfl
    · exact isWhitespace_of_isDigit digit
    · decide
  have onlySpaces : PlainText.stripRepeatedly command.pattern
      (command.pattern ++ (spaces ++ numeral)) = spaces ++ numeral :=
    PlainText.stripRepeatedly_append command.pattern_ne_nil
      (not_prefix_of_numeral blanks reads)
  have onlyNumeral : PlainText.trim isWhitespace (spaces ++ numeral) = numeral :=
    PlainText.trim_append blanks solid
  rw [parse, onlySpaces, onlyNumeral]
  exact PlainText.parseUnsigned_eq_some_iff.mpr ⟨reads, fits⟩

theorem Names.jobId_eq (names : command.Names jobId text) :
    command.jobId text = jobId := by
  rw [ControlCommand.jobId, names.parse_eq, Option.getD_some]

theorem Names.unique {otherId : Nat} (names : command.Names jobId text)
    (otherNames : other.Names otherId text) :
    command = other ∧ jobId = otherId := by
  have same := eq_of_prefix names.starts otherNames.starts
  subst same
  exact ⟨rfl, names.jobId_eq.symm.trans otherNames.jobId_eq⟩

/-- The words that are compared before the control commands. -/
def earlierWords : List String :=
  ["status", "metrics", "metrics/json", "metrics/prometheus", "config", "ping"]

theorem ne_of_starts (starts : command.pattern <+: text) {word : String}
    (member : word ∈ earlierWords) : text ≠ word.toList := by
  rintro rfl
  have noWord : ∀ command : ControlCommand, ∀ word ∈ earlierWords,
      ¬ command.pattern <+: word.toList := by
    intro command
    cases command <;> decide
  exact noWord command word member starts

end ControlCommand

namespace IpcServer

variable {sources : IpcSources} {line : String}

/-- A task that does not panic answers; one that does was asked to measure. -/
theorem answer_cases (sources : IpcSources) (panics : IpcPanics) (line : String) :
    answer sources panics line = some (dispatch sources line) ∨
      answer sources panics line = none ∧ Measures line := by
  unfold answer
  split
  · next panicked =>
      refine .inr ⟨rfl, ?_⟩
      rw [Measures, List.map_cons]
      rcases panicked with ⟨_, status⟩ | ⟨_, figures⟩
      · rw [status]
        exact List.mem_cons_self
      · exact List.mem_cons_of_mem _ figures
  · exact .inl rfl

/-- Every line that starts with a control command and its space is taken for
one, whatever follows. -/
theorem dispatch_of_starts {command : ControlCommand}
    (starts : command.pattern <+: trimLine line) :
    dispatch sources line = control command (trimLine line) := by
  have differs (word : String) (member : word ∈ ControlCommand.earlierWords) :=
    ControlCommand.ne_of_starts starts member
  have other (other : ControlCommand) (distinct : command ≠ other) :
      ¬ other.pattern <+: trimLine line :=
    fun otherStarts => distinct (ControlCommand.eq_of_prefix starts otherStarts)
  rw [dispatch, if_neg (differs "status" (by decide)),
    if_neg (not_or.mpr ⟨differs "metrics" (by decide),
      differs "metrics/json" (by decide)⟩),
    if_neg (differs "metrics/prometheus" (by decide)),
    if_neg (differs "config" (by decide)), if_neg (differs "ping" (by decide))]
  cases command with
  | pause => rw [if_pos starts]
  | resume => rw [if_neg (other .pause (by decide)), if_pos starts]
  | cancel =>
      rw [if_neg (other .pause (by decide)), if_neg (other .resume (by decide)),
        if_pos starts]

/-- Every other line is answered without an event. -/
theorem dispatch_of_not_starts
    (plain : ∀ command : ControlCommand, ¬ command.pattern <+: trimLine line) :
    (dispatch sources line).events = [] ∧
      ∀ command, (dispatch sources line).reply ≠ .requested command := by
  rw [dispatch, if_neg (plain .pause), if_neg (plain .resume),
    if_neg (plain .cancel)]
  split
  · cases sources.collectStatus <;> exact ⟨rfl, fun _ => nofun⟩
  · repeat' split
    all_goals exact ⟨rfl, fun _ => nofun⟩

/-- A connection adds to the bus what its lines publish, in their order. -/
theorem connection_published (bus : EventBus)
    (requests : List (IpcSources × String)) :
    (connection bus requests).1.published =
      bus.published ++ requests.flatMap fun request =>
        (dispatch request.1 request.2).events := by
  induction requests using List.reverseRecOn with
  | nil => simp [connection]
  | append_singleton requests request ih =>
      have lastStep : (connection bus (requests ++ [request])).1 =
          (connection bus requests).1.publishAll
            (dispatch request.1 request.2).events := by
        simp [connection, List.foldl_append]
      rw [lastStep, EventBus.publishAll, ih]
      simp

/-- A line publishes the event of a control command, with its number, exactly
when the trimmed line names that job; every other line publishes nothing and is
not told that something was requested. -/
structure ParsedExactly (sources : IpcSources) (line : String) : Prop where
  published_iff : ∀ (command : ControlCommand) (jobId : Nat),
    (dispatch sources line).events = [command.event jobId] ↔
      command.Names jobId (trimLine line)
  otherwise :
    (∀ (command : ControlCommand) (jobId : Nat),
      ¬ command.Names jobId (trimLine line)) →
        (dispatch sources line).events = [] ∧
          ∀ command, (dispatch sources line).reply ≠ .requested command

theorem parsedExactly_of_not_starts
    (plain : ∀ command : ControlCommand, ¬ command.pattern <+: trimLine line) :
    ParsedExactly sources line where
  published_iff command jobId := by
    have silent := (@dispatch_of_not_starts sources line plain).1
    constructor
    · intro published
      rw [silent] at published
      cases published
    · intro names
      exact absurd names.starts (plain command)
  otherwise _ := dispatch_of_not_starts plain

theorem event_inj {command other : ControlCommand} {jobId otherId : Nat}
    (same : command.event jobId = other.event otherId) :
    command = other ∧ jobId = otherId := by
  cases command <;> cases other <;> cases same <;> exact ⟨rfl, rfl⟩

theorem parsedExactly_of_names {command : ControlCommand} {jobId : Nat}
    (names : command.Names jobId (trimLine line)) :
    ParsedExactly sources line where
  published_iff other otherId := by
    have events : (dispatch sources line).events = [command.event jobId] := by
      rw [dispatch_of_starts names.starts, control, names.jobId_eq]
    constructor
    · intro published
      rw [events] at published
      obtain ⟨rfl, rfl⟩ := event_inj (List.singleton_inj.mp published)
      exact names
    · intro otherNames
      obtain ⟨rfl, rfl⟩ := names.unique otherNames
      exact events
  otherwise none := absurd names (none command jobId)

/-- The recogniser is exact on the lines that start with no control command and
on those where one numeral follows it; a missing, malformed or repeated id is
read as job zero. -/
theorem parsedExactly_iff (sources : IpcSources) (line : String) :
    ParsedExactly sources line ↔
      (∀ command : ControlCommand, ¬ command.pattern <+: trimLine line) ∨
        ∃ (command : ControlCommand) (jobId : Nat),
          command.Names jobId (trimLine line) := by
  constructor
  · intro exactly
    by_cases plain : ∀ command : ControlCommand,
        ¬ command.pattern <+: trimLine line
    · exact .inl plain
    · push Not at plain
      obtain ⟨command, starts⟩ := plain
      have published : (dispatch sources line).events =
          [command.event (command.jobId (trimLine line))] := by
        rw [dispatch_of_starts starts, control]
      exact .inr ⟨command, _, (exactly.published_iff command _).mp published⟩
  · rintro (plain | ⟨command, jobId, names⟩)
    · exact parsedExactly_of_not_starts plain
    · exact parsedExactly_of_names names

/-- A server that answers its longer requests with empty texts. -/
def silentSources : IpcSources where
  collectStatus := .ok ""
  metricsJson := ""
  metricsPrometheus := ""
  config := ""
  uptimeSecs := 0

/-- Every call of a request returns. -/
def noPanics : IpcPanics where
  collectStatus := false
  snapshot := false

/-- A word in the place of the number asks for job zero to be cancelled. -/
theorem cancel_word_cancels_zero :
    dispatch silentSources "cancel_job all\n" =
        ⟨[.jobControlCancel 0], .requested .cancel⟩ ∧
      ¬ ParsedExactly silentSources "cancel_job all\n" := by
  have cancelled : dispatch silentSources "cancel_job all\n" =
      ⟨[.jobControlCancel 0], .requested .cancel⟩ := by decide
  refine ⟨cancelled, ?_⟩
  intro exactly
  have published : (dispatch silentSources "cancel_job all\n").events =
      [ControlCommand.cancel.event 0] := by
    rw [cancelled]
    rfl
  have names := (exactly.published_iff .cancel 0).mp published
  have unread : ControlCommand.cancel.parse (trimLine "cancel_job all\n") =
      none := by decide
  rw [names.parse_eq] at unread
  cases unread

end IpcServer

end NetGuardian
