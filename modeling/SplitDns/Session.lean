import SplitDns.Server
import SplitDns.Scripted
import SplitDns.Domestic
/-!
# A forwarder session

A forwarder with scripted resolvers and a cache, run command by command on a clock that only
moves when told to. Commands handle a query, change a resolver's script, move the clock, look
into the cache, read its metrics, or serve a request given as octets. Each command reports
what it did, with the resolver calls it made (a refresh of a stale entry included) and the
cache size after it; the session also counts the classifier's calls over its whole run.
-/

namespace SplitDns

/-- Which resolver a script belongs to. -/
inductive Side where
  | fast
  | clean
  deriving DecidableEq, Repr

/-- A command to a session. -/
inductive SessionCommand where
  | query (q : Query)
  | setScript (side : Side) (domain : String) (action : ResolverAction)
  | advance (ms : Nat)
  | lookup (q : Query)
  | metrics
  /-- Serve a request; with `failSend`, sending the reply fails. -/
  | request (bytes : ByteArray) (transport : Transport) (failSend : Bool)

/-- How a request was served. -/
inductive Served where
  /-- The request could not be read. -/
  | rejected (error : String)
  /-- The request was handled; the reply sent, if sending worked, and its header. -/
  | replied (reply : Option ByteArray) (info : Header) (events : List Event)
    (fastCalls cleanCalls : Nat)

/-- What a session command gives back. -/
inductive SessionReply where
  | answered (h : Handled) (cacheSize : Nat)
  | done
  | found (answer : Option Answer) (stale : Bool)
  | metrics (m : CacheMetrics)
  | served (s : Served) (cacheSize : Nat)

/-- A running session. -/
structure Session where
  fast : Script ResolverAction
  clean : Script ResolverAction
  table : DomesticTable
  cache : AnswerCache
  now : Nat := 0
  classifierCalls : Nat := 0

namespace Session

/-- The resolvers and classifier of the session as it stands. -/
def upstreams (s : Session) : Upstreams :=
  { fast := scriptedResolver s.fast, clean := scriptedResolver s.clean,
    isDomestic := s.table.isDomestic }

/-- A script with the entry for a domain set. -/
def setEntry (script : Script ResolverAction) (domain : String) (a : ResolverAction) :
    Script ResolverAction :=
  (domain, a) :: script.filter (·.1 ≠ domain)

/-- Handles a query, counting the classifier's calls; none when the handling stops at the
clock's end. -/
def handle (s : Session) (q : Query) : Option (Handled × Session) := do
  let (h, cache) ← handleQuery s.upstreams s.now q s.cache
  pure (h, { s with cache, classifierCalls := s.classifierCalls + h.classifierCalls })

/-- Serves a request given as octets; none when its handling stops at the clock's end. -/
def serve (s : Session) (bytes : ByteArray) (transport : Transport) (failSend : Bool) :
    Option (Served × Session) :=
  match Request.decode bytes with
  | .error e => some (.rejected e, s)
  | .ok r => do
    let (h, s) ← s.handle (r.query transport)
    let (reply, info) :=
      if failSend then (none, sendFailure r)
      else
        let (bs, info) := replyTo r transport h.answer
        (some bs, info)
    pure (.replied reply info h.events h.fastCalls h.cleanCalls, s)

/-- Runs one command; none when it would take the clock past its end. -/
def step (s : Session) : SessionCommand → Option (SessionReply × Session)
  | .query q => do
    let (h, s) ← s.handle q
    pure (.answered h s.cache.size, s)
  | .setScript .fast d a => some (.done, { s with fast := setEntry s.fast d a })
  | .setScript .clean d a => some (.done, { s with clean := setEntry s.clean d a })
  | .advance ms => do
    let now ← clockAfter s.now ms
    pure (.done, { s with now })
  | .lookup q =>
    let ((a, stale), cache) := s.cache.lookup s.now q
    some (.found a stale, { s with cache })
  | .metrics => some (.metrics s.cache.metrics, s)
  | .request bs t failSend => do
    let (r, s) ← s.serve bs t failSend
    pure (.served r s.cache.size, s)

/-- Runs commands in order, giving the replies and the session after them; none when a command
would take the clock past its end. -/
def run (s : Session) : List SessionCommand → Option (List SessionReply × Session)
  | [] => some ([], s)
  | cmd :: rest => do
    let (r, s) ← s.step cmd
    let (rs, s) ← run s rest
    pure (r :: rs, s)

end Session
end SplitDns
