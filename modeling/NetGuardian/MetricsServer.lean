import NetGuardian.Foundation.FramedMessage
import NetGuardian.Ipc
import NetGuardian.Prometheus

/-!
# The metrics server

`cmd_metrics_serve` reads the first line of a request and answers with one HTTP
response.  The client finds its end by the length in the head, which counts bytes.
Every connection has a task of its own, and all of them share one metrics engine: a
snapshot that meets another task inside it panics, and its client gets no response.
-/

namespace NetGuardian

/-- The bytes of a text. -/
def wire (text : String) : List UInt8 := text.toByteArray.data.toList

structure HttpReply where
  status : String
  contentType : String
  body : String
deriving DecidableEq

namespace HttpReply

/-- The response as it is written; `body.len()` is a number of bytes. -/
def render (reply : HttpReply) : String :=
  "HTTP/1.1 " ++ reply.status ++ "\r\nContent-Type: " ++ reply.contentType ++
    "\r\nContent-Length: " ++ toString reply.body.utf8ByteSize ++
    "\r\nConnection: close\r\n\r\n" ++ reply.body

def index : HttpReply where
  status := "200 OK"
  contentType := "text/plain"
  body := "NetGuardian Metrics\nGET /metrics\nGET /health\n"

def health : HttpReply where
  status := "200 OK"
  contentType := "application/json"
  body := "\x7b\"status\":\"ok\"\x7d"

def metrics (text : String) : HttpReply where
  status := "200 OK"
  contentType := "text/plain; version=0.0.4"
  body := text

def notFound : HttpReply where
  status := "404 Not Found"
  contentType := "text/plain"
  body := "Not found"

end HttpReply

namespace MetricsServer

/-- The second word of the line. -/
def path (line : String) : List Char :=
  ((PlainText.splitBlanks isWhitespace line.toList)[1]?).getD "/".toList

/-- The response to a line.  `entered` is whether `try_lock` gets the mutex of the
engine; without it the snapshot panics. -/
def respond (display : ℚ → String) (metrics : MetricsStore) (entered : Bool)
    (now : Nat) (line : String) : Option (MetricsStore × HttpReply) :=
  if path line = "/metrics".toList then
    if entered then
      let formatted := metrics.formatPrometheus display now
      some (formatted.1, .metrics formatted.2)
    else none
  else if path line = "/health".toList then some (metrics, .health)
  else if path line = "/".toList then some (metrics, .index)
  else some (metrics, .notFound)

/-- A connection: what `read_line` returned, or nothing at the end of the input and
after an error. -/
def serve (display : ℚ → String) (metrics : MetricsStore) (entered : Bool)
    (now : Nat) : Option String → MetricsStore × List UInt8
  | none => (metrics, [])
  | some line =>
      match respond display metrics entered now line with
      | none => (metrics, [])
      | some answered => (answered.1, wire answered.2.render)

end MetricsServer

section Wire

end Wire

namespace HttpReply

/-- The lines of the head. -/
def head (reply : HttpReply) : List (List UInt8) :=
  [wire "HTTP/1.1 " ++ wire reply.status,
    wire "Content-Type: " ++ wire reply.contentType,
    wire "Content-Length: " ++ wire (toString reply.body.utf8ByteSize),
    wire "Connection: close"]

/-- The texts in the head are ordinary ones. -/
def Plain (reply : HttpReply) : Prop :=
  13 ∉ wire reply.status ∧ 13 ∉ wire reply.contentType

variable {reply : HttpReply}

end HttpReply

namespace MetricsServer

variable {display : ℚ → String} {metrics after : MetricsStore} {entered : Bool}
variable {now : Nat} {line : String} {reply : HttpReply}

/-- The paths that are answered with success. -/
def served : List (List Char) := ["/metrics".toList, "/health".toList, "/".toList]

end MetricsServer

end NetGuardian
