import NetGuardian.Foundation.JsonText
import NetGuardian.Ipc

/-!
# The JSON texts of the Unix socket

Most answers are written by a serializer.  The two error answers are formatted:
the error text of the status collection and the text of an unknown command stand
between quotation marks as they are.  Such an answer is a JSON document exactly
when the text may stand there, which a text with a quotation mark, a backslash or
a control character in general may not.
-/

namespace NetGuardian

open JsonText

namespace IpcServer

/-- The commands that are compared as whole words. -/
def knownWords : List String :=
  ["status", "metrics", "metrics/json", "metrics/prometheus", "config", "ping",
    "health"]

def Known (cmd : List Char) : Prop :=
  cmd ∈ knownWords.map String.toList ∨
    ∃ command : ControlCommand, command.pattern <+: cmd

/-- The serializer writes JSON documents. -/
structure SerializesJson (sources : IpcSources) : Prop where
  status : ∀ text, sources.collectStatus = .ok text → IsDocument text.toList
  metrics : IsDocument sources.metricsJson.toList
  config : IsDocument sources.config.toList

/-- The lines that are promised a JSON document. -/
structure AnsweredInJson (line : String) : Prop where
  notPing : trimLine line ≠ "ping".toList
  notPrometheus : trimLine line ≠ "metrics/prometheus".toList

/-- What is formatted into the answer to a line may stand between quotation
marks. -/
structure Embeddable (sources : IpcSources) (line : String) : Prop where
  statusError : trimLine line = "status".toList →
    ∀ error, sources.collectStatus = .error error → InQuotes error.toList
  unknown : ¬ Known (trimLine line) → InQuotes (trimLine line)

variable {sources : IpcSources} {line : String}

section Replies

theorem isPlain_error : ∀ letter ∈ "error".toList, isPlain letter = true :=
  List.all_eq_true.mp (by decide)

theorem isPlain_unknown :
    ∀ letter ∈ "unknown command: ".toList, isPlain letter = true :=
  List.all_eq_true.mp (by decide)

theorem plainMember_value {key value : List Char} (plainKey : key.all isPlain = true)
    (isValue : IsValue value) : PlainMember (key, value) :=
  ⟨List.all_eq_true.mp plainKey, isValue⟩

theorem plainMember_text {key text : List Char} (plainKey : key.all isPlain = true)
    (plain : text.all isPlain = true) :
    PlainMember (key, quote :: (text ++ [quote])) :=
  plainMember_value plainKey (.string (isString_of_plain (List.all_eq_true.mp plain)))

/-- The state that the answer to a control command names. -/
def requestedState : ControlCommand → String
  | .pause => "pause_requested"
  | .resume => "resume_requested"
  | .cancel => "cancel_requested"

/-- The answer to a control command is an object of one member. -/
theorem isDocument_requested (command : ControlCommand) :
    IsDocument (IpcReply.requested command).render.toList := by
  have plainState : (requestedState command).toList.all isPlain = true := by
    cases command <;> decide
  have isObject : IsValue (compactObject
      ("status".toList, quote :: ((requestedState command).toList ++ [quote])) []) :=
    isValue_compactObject (plainMember_text (by decide) plainState) nofun
  have written : (IpcReply.requested command).render.toList = compactObject
      ("status".toList, quote :: ((requestedState command).toList ++ [quote])) [] ++
        ['\n'] := by
    cases command <;> decide
  rw [written]
  exact isObject.isDocument_line

/-- The members of the health answer behind the first, in the order of their
names. -/
def healthMembers (uptimeSecs : Nat) : List (List Char × List Char) :=
  [("status".toList, quote :: ("ok".toList ++ [quote])),
    ("uptime_secs".toList, Nat.toDigits 10 uptimeSecs),
    ("version".toList, quote :: ("0.1.0".toList ++ [quote]))]

theorem render_health (uptimeSecs : Nat) :
    (IpcReply.health uptimeSecs).render.toList =
      compactObject ("healthy".toList, "true".toList) (healthMembers uptimeSecs) ++
        ['\n'] := by
  have written : (IpcReply.health uptimeSecs).render =
      "\x7b\"healthy\":true,\"status\":\"ok\",\"uptime_secs\":" ++
        toString uptimeSecs ++ ",\"version\":\"0.1.0\"\x7d\n" := rfl
  rw [written, String.toList_append, String.toList_append, Nat.toString_eq_repr,
    Nat.toList_repr]
  simp [compactObject, compactMember, healthMembers]

theorem isDocument_health (uptimeSecs : Nat) :
    IsDocument (IpcReply.health uptimeSecs).render.toList := by
  have first : PlainMember ("healthy".toList, "true".toList) :=
    plainMember_value (by decide) (.literal (.inl rfl))
  have others : ∀ member ∈ healthMembers uptimeSecs, PlainMember member := by
    have uptime : PlainMember ("uptime_secs".toList, Nat.toDigits 10 uptimeSecs) :=
      plainMember_value (by decide) (.number (isNumber_toDigits uptimeSecs))
    simp only [healthMembers, List.forall_mem_cons]
    exact ⟨plainMember_text (by decide) (by decide), uptime,
      plainMember_text (by decide) (by decide), nofun⟩
  rw [render_health]
  exact (isValue_compactObject first others).isDocument_line

theorem render_serialized {reply : IpcReply} {text : String}
    (serialized : reply = .status text ∨ reply = .metrics text ∨ reply = .config text) :
    reply.render.toList = text.toList ++ ['\n'] := by
  have written : reply.render = text ++ "\n" := by
    rcases serialized with rfl | rfl | rfl <;> rfl
  rw [written, String.toList_append]
  rfl

theorem render_statusError (error : String) :
    (IpcReply.statusError error).render.toList =
      quotedLine "error".toList [] error.toList := by
  have written : (IpcReply.statusError error).render =
      "\x7b\"error\": \"" ++ error ++ "\"\x7d\n" := rfl
  rw [written, String.toList_append, String.toList_append]
  simp [quotedLine, quotedMember]

theorem render_unknown (cmd : List Char) :
    (IpcReply.unknown cmd).render.toList =
      quotedLine "error".toList "unknown command: ".toList cmd := by
  have written : (IpcReply.unknown cmd).render =
      "\x7b\"error\": \"unknown command: " ++ String.ofList cmd ++ "\"\x7d\n" := rfl
  rw [written, String.toList_append, String.toList_append, String.toList_ofList]
  simp [quotedLine, quotedMember]

end Replies

section Dispatch

theorem dispatch_status_ok {text : String} (isStatus : trimLine line = "status".toList)
    (collected : sources.collectStatus = .ok text) :
    (dispatch sources line).reply = .status text := by
  rw [dispatch, if_pos isStatus, collected]

theorem dispatch_status_error {error : String}
    (isStatus : trimLine line = "status".toList)
    (failed : sources.collectStatus = .error error) :
    (dispatch sources line).reply = .statusError error := by
  rw [dispatch, if_pos isStatus, failed]

theorem not_mem_knownWords (unknown : ¬ Known (trimLine line)) {word : String}
    (member : word ∈ knownWords) : trimLine line ≠ word.toList :=
  fun same => unknown (.inl (List.mem_map.mpr ⟨word, member, same.symm⟩))

/-- A line that is no command is answered with its own text. -/
theorem dispatch_unknown (unknown : ¬ Known (trimLine line)) :
    (dispatch sources line).reply = .unknown (trimLine line) := by
  have differs (word : String) (member : word ∈ knownWords) :=
    not_mem_knownWords unknown member
  have noCommand (command : ControlCommand) : ¬ command.pattern <+: trimLine line :=
    fun starts => unknown (.inr ⟨command, starts⟩)
  rw [dispatch, if_neg (differs "status" (by decide)),
    if_neg (not_or.mpr ⟨differs "metrics" (by decide),
      differs "metrics/json" (by decide)⟩),
    if_neg (differs "metrics/prometheus" (by decide)),
    if_neg (differs "config" (by decide)), if_neg (differs "ping" (by decide)),
    if_neg (noCommand .pause), if_neg (noCommand .resume), if_neg (noCommand .cancel),
    if_neg (differs "health" (by decide))]

theorem dispatch_health (isHealth : trimLine line = "health".toList) :
    (dispatch sources line).reply = .health sources.uptimeSecs := by
  have noCommand : ∀ command : ControlCommand,
      ¬ command.pattern <+: "health".toList := by
    intro command
    cases command <;> decide
  rw [dispatch, isHealth, if_neg (by decide), if_neg (by decide), if_neg (by decide),
    if_neg (by decide), if_neg (by decide), if_neg (noCommand .pause),
    if_neg (noCommand .resume), if_neg (noCommand .cancel), if_pos rfl]

/-- The other commands are answered with a serialized text or one of the fixed
forms. -/
theorem reply_of_known (known : Known (trimLine line))
    (notStatus : trimLine line ≠ "status".toList) (inJson : AnsweredInJson line) :
    (dispatch sources line).reply = .metrics sources.metricsJson ∨
      (dispatch sources line).reply = .config sources.config ∨
      (dispatch sources line).reply = .health sources.uptimeSecs ∨
      ∃ command, (dispatch sources line).reply = .requested command := by
  rcases known with isWord | ⟨command, starts⟩
  · have words : trimLine line = "metrics".toList ∨
        trimLine line = "metrics/json".toList ∨ trimLine line = "config".toList ∨
          trimLine line = "health".toList := by
      simp only [knownWords, List.map_cons, List.map_nil, List.mem_cons,
        List.not_mem_nil, or_false, notStatus, inJson.notPing, inJson.notPrometheus,
        false_or] at isWord
      exact isWord
    rcases words with same | same | same | same
    · exact .inl (by simp [dispatch, same])
    · exact .inl (by simp [dispatch, same])
    · exact .inr (.inl (by simp [dispatch, same]))
    · exact .inr (.inr (.inl (dispatch_health same)))
  · refine .inr (.inr (.inr ⟨command, ?_⟩))
    rw [dispatch_of_starts starts, control]

end Dispatch

theorem isDocument_of_known (serializes : SerializesJson sources)
    (known : Known (trimLine line)) (notStatus : trimLine line ≠ "status".toList)
    (inJson : AnsweredInJson line) :
    IsDocument (dispatch sources line).reply.render.toList := by
  rcases reply_of_known known notStatus inJson with same | same | same | ⟨command, same⟩
  · rw [same, render_serialized (.inr (.inl rfl))]
    exact serializes.metrics.append_newline
  · rw [same, render_serialized (.inr (.inr rfl))]
    exact serializes.config.append_newline
  · rw [same]
    exact isDocument_health _
  · rw [same]
    exact isDocument_requested command

theorem isDocument_status_iff (serializes : SerializesJson sources)
    (isStatus : trimLine line = "status".toList) :
    IsDocument (dispatch sources line).reply.render.toList ↔
      ∀ error, sources.collectStatus = .error error → InQuotes error.toList := by
  cases collected : sources.collectStatus with
  | ok text =>
      rw [dispatch_status_ok isStatus collected, render_serialized (.inl rfl)]
      exact iff_of_true (serializes.status text collected).append_newline nofun
  | error error =>
      rw [dispatch_status_error isStatus collected, render_statusError,
        isDocument_quotedLine_iff isPlain_error (List.forall_mem_nil _)]
      constructor
      · rintro inQuotes _ ⟨rfl⟩
        exact inQuotes
      · intro embeddable
        exact embeddable error rfl

theorem isDocument_unknown_iff (unknown : ¬ Known (trimLine line)) :
    IsDocument (dispatch sources line).reply.render.toList ↔
      InQuotes (trimLine line) := by
  rw [dispatch_unknown unknown, render_unknown,
    isDocument_quotedLine_iff isPlain_error isPlain_unknown]

/-- An answer is a JSON document exactly when the text that is formatted into it
may stand between quotation marks. -/
theorem isDocument_reply_iff (serializes : SerializesJson sources)
    (inJson : AnsweredInJson line) :
    IsDocument (dispatch sources line).reply.render.toList ↔
      Embeddable sources line := by
  by_cases isStatus : trimLine line = "status".toList
  · have known : Known (trimLine line) := .inl (by rw [isStatus]; decide)
    rw [isDocument_status_iff serializes isStatus]
    exact ⟨fun embeddable => ⟨fun _ => embeddable, absurd known⟩,
      fun embeddable => embeddable.statusError isStatus⟩
  · by_cases known : Known (trimLine line)
    · exact iff_of_true (isDocument_of_known serializes known isStatus inJson)
        ⟨fun same => absurd same isStatus, absurd known⟩
    · rw [isDocument_unknown_iff known]
      exact ⟨fun inQuotes => ⟨fun same => absurd same isStatus, fun _ => inQuotes⟩,
        fun embeddable => embeddable.unknown known⟩

/-- A server whose status collection fails and whose other texts are small
objects. -/
def failingSources : IpcSources where
  collectStatus := .error "No such file or directory (os error 2)"
  metricsJson := "\x7b\x7d"
  metricsPrometheus := ""
  config := "\x7b\x7d"
  uptimeSecs := 0

theorem failingSources_serializesJson : SerializesJson failingSources := by
  have isObject : IsDocument "\x7b\x7d".toList :=
    ⟨[], "\x7b\x7d".toList, [], blanks_nil, .emptyObject blanks_nil, blanks_nil, rfl⟩
  exact ⟨nofun, isObject, isObject⟩

/-- The error text of an operating system may stand between quotation marks. -/
theorem isDocument_reply_iff_failing :
    IsDocument (dispatch failingSources "status\n").reply.render.toList ↔
      Embeddable failingSources "status\n" :=
  isDocument_reply_iff failingSources_serializesJson ⟨by decide, by decide⟩

/-- A quotation mark in an unknown command ends the error text too early. -/
theorem quoted_command_is_no_document :
    SerializesJson failingSources ∧ AnsweredInJson "say \"hi\"\n" ∧
      ¬ IsDocument (dispatch failingSources "say \"hi\"\n").reply.render.toList := by
  refine ⟨failingSources_serializesJson, ⟨by decide, by decide⟩, ?_⟩
  have sent : trimLine "say \"hi\"\n" = "say \"hi\"".toList := by decide
  have unknown : ¬ Known (trimLine "say \"hi\"\n") := by
    rw [sent]
    rintro (isWord | ⟨command, starts⟩)
    · exact absurd isWord (by decide)
    · revert starts
      cases command <;> decide
  rw [isDocument_unknown_iff unknown, sent]
  have plain : ∀ letter ∈ "say ".toList, isPlain letter = true :=
    List.all_eq_true.mp (by decide)
  intro inQuotes
  have isTail : IsMemberTail ("hi\"".toList ++ [quote]) :=
    (inQuotes_append_quote_iff plain).mp inQuotes
  exact absurd (isTail.head rfl) (by decide)

end IpcServer

end NetGuardian
