import SplitDns.Cli.Args
import SplitDns.Cache
import SplitDns.Domestic.Builtin
import SplitDns.Network
import SplitDns.Text.Quote
/-!
# Running the forwarder

A run of the program on a host, from its command line to its exit. The help and version
switches print their text and succeed; a refused command line fails with status 2. Otherwise
the configuration is loaded and checked, and only then does logging start, at the configured
level: it announces itself and the program. The domestic table is read next, from the
configured file or built in, then the forwarder binds its address, over UDP first and TCP
next, and serves until it is interrupted, when it shuts down and succeeds. Any failure from the
configuration on ends the run with status 1 and a report of the error and its cause.

The host gives the files the program may read and tells which addresses can be bound.
-/

namespace SplitDns
namespace Cli

/-- The severity of a log line. -/
inductive Level where
  | error
  | warn
  | info
  | debug
  | trace
  deriving DecidableEq, Repr

namespace Level

/-- How verbose a level is: the error level least, the trace level most. -/
def verbosity : Level → Nat
  | .error => 1
  | .warn => 2
  | .info => 3
  | .debug => 4
  | .trace => 5

/-- The name of a level in a log line. -/
def name : Level → String
  | .error => "ERROR"
  | .warn => "WARN"
  | .info => "INFO"
  | .debug => "DEBUG"
  | .trace => "TRACE"

/-- The level a configured name means, in any case. -/
def ofName? (s : String) : Option Level :=
  match Config.asciiLower s with
  | "error" => some .error
  | "warn" => some .warn
  | "info" => some .info
  | "debug" => some .debug
  | "trace" => some .trace
  | _ => none

end Level

/-- A log line: its level, the part of the program it comes from, the message and the fields. -/
structure LogLine where
  level : Level
  target : String
  message : String
  fields : List (String × String) := []
  deriving DecidableEq, Repr

/-- The text of a log line. -/
def LogLine.text (l : LogLine) : String :=
  l.level.name ++ " " ++ l.target ++ ": " ++ l.message ++
    String.join (l.fields.map fun (k, v) => " " ++ k ++ "=" ++ v)

/-- The texts of the log lines shown at a level: those no more verbose than it. -/
def shownAt (level : Level) (lines : List LogLine) : List String :=
  (lines.filter fun l => l.level.verbosity ≤ level.verbosity).map LogLine.text

/-- A line at the info level. -/
def info (target message : String) (fields : List (String × String)) : LogLine :=
  { level := .info, target, message, fields }

/-- The part of the program that starts logging. -/
def loggingTarget : String := programName ++ "::bootstrap::logging"

/-- The part of the program that wires the forwarder. -/
def wiringTarget : String := programName ++ "::di"

/-- The part of the program that serves. -/
def serverTarget : String := programName ++ "::server::dns"

/-- A host: the files it holds and the sockets it can open. -/
structure Host where
  files : String → Option String
  /-- The socket error met binding an address over a transport, if any. -/
  bind : SocketAddr → Transport → Option String

/-- The socket error of an address another socket holds. -/
def addressInUse : String := "Address already in use (os error 98)"

/-- How a run ended. -/
structure Exit where
  code : Nat
  /-- The standard output, line by line, up to the exit or, for a server, up to the
  interrupt. -/
  stdout : List String := []
  stderr : String := ""
  /-- Whether the program served until it was interrupted. -/
  served : Bool := false
  /-- The standard output after the interrupt. -/
  afterInterrupt : List String := []
  deriving DecidableEq, Repr

/-- The report of a failed run: the error, then the error that caused it, indented. -/
def failureText (message : String) (cause : Option String) : String :=
  "Error: " ++ message ++
    (match cause with
      | some c => "\n\nCaused by:\n    " ++ "\n    ".intercalate (c.splitOn "\n")
      | none => "") ++ "\n"

/-- A run failing with status 1 after the given output. -/
def failed (stdout : List String) (message : String) (cause : Option String) : Exit :=
  { code := 1, stdout, stderr := failureText message cause }

/-- The domestic table of a configuration, or the file and why it could not be read. -/
def classifierOf (files : String → Option String) (c : Config) :
    Except (String × DomainError) DomesticTable :=
  match c.classifier.chinaIpList with
  | some path =>
    match DomesticTable.ofFile files path with
    | .ok t => .ok t
    | .error e => .error (path, e)
  | none => .ok DomesticTable.builtin

/-- The lines that open a run: logging started, and the program starting. -/
def openingLines (level : Level) (c : Config) : List LogLine :=
  [info loggingTarget "Logging initialized"
      [("level", level.name), ("listen", c.server.listen),
       ("cache_capacity", toString c.cache.capacity)],
   info programName "Starting FreeDNS"
      [("version", Text.quoted programVersion), ("fast", c.upstream.fast),
       ("clean", c.upstream.clean)]]

/-- The line telling where the domestic table came from and its size. -/
def tableLine (c : Config) (t : DomesticTable) : LogLine :=
  info wiringTarget "China IP table loaded"
    [("ranges", toString t.size), ("source", Text.quoted (c.classifier.chinaIpList.getD "builtin"))]

/-- The part of the program that keeps the answer cache. -/
def cacheTarget : String := "freedns_infrastructure::dns::cache::storage"

/-- The line telling the size of the answer cache and the least lifetime of its answers. -/
def cacheLine (c : Config) : LogLine :=
  info cacheTarget "Answer cache created"
    [("capacity", toString c.cache.capacity), ("min_ttl_secs", toString c.cache.minTtlSecs)]

/-- The line for one bound transport. -/
def listeningLine (protocol : String) : LogLine :=
  info serverTarget "DNS server listening" [("protocol", Text.quoted protocol)]

/-- The forwarder binding its address, over UDP first and TCP next, and serving until it is
interrupted, after the given log lines. -/
def bindAndServe (host : Host) (level : Level) (before : List LogLine) (addr : SocketAddr) :
    Exit :=
  let starting := before ++
    [info serverTarget "Starting DNS server" [("bind_address", addr.toText)]]
  match host.bind addr .datagram with
  | some why => failed (shownAt level starting) why none
  | none =>
    let udp := starting ++ [listeningLine Transport.datagram.protocolName]
    match host.bind addr .stream with
    | some why => failed (shownAt level udp) why none
    | none =>
      { code := 0, served := true,
        stdout := shownAt level (udp ++ [listeningLine Transport.stream.protocolName,
          info serverTarget "DNS server ready to accept queries" []]),
        afterInterrupt := shownAt level
          [info serverTarget "Shutdown signal received, draining in-flight queries" [],
           info serverTarget "DNS server stopped" []] }

/-- What wiring gives a forwarder: its domestic table, the addresses of its two resolvers and its
answer cache. -/
structure Services where
  table : DomesticTable
  fast : SocketAddr
  clean : SocketAddr
  cache : AnswerCache

/-- Why wiring a forwarder stopped. -/
inductive WiringError where
  /-- The file of domestic networks named in the configuration could not be read. -/
  | classifier (path : String) (e : DomainError)
  /-- A resolver address is no socket address. -/
  | address (e : ConfigError)
  /-- The cache would hold no entry. -/
  | capacity
  deriving DecidableEq, Repr

namespace WiringError

/-- The text of the error. -/
def message : WiringError → String
  | .classifier path _ => "loading China IP list " ++ path
  | .address e => e.message
  | .capacity => "cache.capacity must be greater than zero"

/-- The text of the error that caused it, if there is one. -/
def cause? : WiringError → Option String
  | .classifier _ e => some e.message
  | .address e => e.cause?
  | .capacity => none

end WiringError

/-- Wires a forwarder from its configuration: reads its domestic table, from the configured file
or built in, takes the addresses of its resolvers and creates its cache. Gives the log lines
written on the way, and the services or why wiring stopped. -/
def wire (files : String → Option String) (c : Config) :
    List LogLine × Except WiringError Services :=
  match classifierOf files c with
  | .error (path, e) => ([], .error (.classifier path e))
  | .ok table =>
    let loaded := [tableLine c table]
    match c.fastAddr, c.cleanAddr with
    | .error e, _ => (loaded, .error (.address e))
    | .ok _, .error e => (loaded, .error (.address e))
    | .ok fast, .ok clean =>
      match AnswerCache.create? c.cache.capacity c.cache.minTtlSecs with
      | none => (loaded, .error .capacity)
      | some cache => (loaded ++ [cacheLine c], .ok { table, fast, clean, cache })

/-- A forwarder with a checked configuration starting on a host: it is wired, then binds its
address to serve. -/
def serve (host : Host) (c : Config) : Exit :=
  let level := (Level.ofName? c.logging.level).getD .info
  let opening := openingLines level c
  match wire host.files c with
  | (lines, .error e) => failed (shownAt level (opening ++ lines)) e.message e.cause?
  | (lines, .ok _) =>
    match c.listenAddr with
    | .error e => failed (shownAt level (opening ++ lines)) e.message e.cause?
    | .ok addr => bindAndServe host level (opening ++ lines) addr

/-- A run of the program with the arguments after its name. -/
def launch (host : Host) (args : List String) : Exit :=
  match read args with
  | .error .help => { code := 0, stdout := helpLines }
  | .error .version => { code := 0, stdout := [versionLine] }
  | .error (.refused e) => { code := 2, stderr := e.render }
  | .ok o =>
    let checked := do
      let c ← Config.load host.files o.config o.overrides
      c.validate
      pure c
    match checked with
    | .error e => failed [] e.message e.cause?
    | .ok c => serve host c

/-- The question-less query a client sends to learn whether the forwarder is up: a forwarder
that is up answers it with a format error. -/
def probe : ByteArray := ⟨#[0, 0, 1, 0, 0, 0, 0, 0, 0, 0, 0, 0]⟩

/-- What a client saw of a forwarder it waited for: whether it answered the probe, and the
replies to the requests, which are only sent once it did. -/
structure Watched where
  ready : Bool
  replies : List ServeOutcome

/-- A client waiting for a forwarder on a host where every send fails: the probe gets no
answer, so the forwarder never shows as ready and no request is sent. -/
def watchUnreachable (listen : String) (requests : List (Transport × ByteArray)) : Watched :=
  match (sendUnreachable listen .datagram probe).result with
  | .ok _ => { ready := true, replies := serveUnreachable requests }
  | .error _ => { ready := false, replies := [] }

end Cli
end SplitDns
