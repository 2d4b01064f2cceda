import SplitDns.Dns.Answer
import SplitDns.Text.Binary64
/-!
# The answer cache

A bounded cache of answers keyed by the whole query, kept in order of use. Storing an answer
sets the instant it goes stale: its least TTL from now, or the floor when that TTL is zero or
there are no records. Stale entries are never dropped; a lookup returns them and says that
they need refreshing, so that the forwarder can answer at once and refresh in the background.
Storing under a key already present replaces its entry; storing a new key when the cache is
full evicts the least recently used one. Lookups and stores both make their key the most
recently used. Counters record fresh and stale hits, misses, insertions, updates and
evictions. Time is counted in milliseconds.

Instants are milliseconds of the system's monotonic clock, which counts whole seconds in a signed
64-bit number from an origin of its own, so it ends at 2^63 seconds. Where that clock stands when
a cache starts is not fixed here: the cache is given every instant it reads. Storing an answer
whose staleness falls past the end, or moving the clock past it, cannot be done: the run stops
there.
-/

namespace SplitDns

/-- A cached answer and the instant from which it is stale. -/
structure CacheEntry where
  answer : Answer
  expiresAt : Nat

/-- What the cache has counted since it was made. -/
structure CacheCounters where
  freshHits : Nat := 0
  staleHits : Nat := 0
  misses : Nat := 0
  insertions : Nat := 0
  updates : Nat := 0
  evictions : Nat := 0
  deriving DecidableEq, Repr

/-- A bounded answer cache. -/
structure AnswerCache where
  /-- The most entries kept; positive. -/
  capacity : Nat
  /-- The lifetime, in seconds, of an answer with no positive TTL. -/
  minTtl : Nat
  /-- The entries, most recently used first. -/
  entries : List (Query × CacheEntry) := []
  counters : CacheCounters := {}

/-- A snapshot of the cache's size and counters. -/
structure CacheMetrics where
  totalEntries : Nat
  capacity : Nat
  counters : CacheCounters
  /-- Hits among lookups, in percent. -/
  hitRate : Decimal
  deriving DecidableEq, Repr

/-- The instant, in milliseconds, at which the monotonic clock runs out: its seconds no longer
fit a signed 64-bit number. -/
def clockEnd : Nat := Nat.pow 2 63 * 1000

/-- The instant `ms` milliseconds after `now`, when the clock reaches it. -/
def clockAfter (now ms : Nat) : Option Nat :=
  if now + ms < clockEnd then some (now + ms) else none

namespace AnswerCache

/-- An empty cache; none with capacity zero. -/
def create? (capacity minTtl : Nat) : Option AnswerCache :=
  if capacity = 0 then none else some { capacity, minTtl }

/-- The number of entries. -/
def size (c : AnswerCache) : Nat := c.entries.length

/-- The entry under a key. -/
def find? (c : AnswerCache) (q : Query) : Option CacheEntry :=
  (c.entries.find? (·.1 = q)).map (·.2)

/-- The entries with one key's entry replaced and moved to the front. -/
def promote (c : AnswerCache) (q : Query) (e : CacheEntry) : List (Query × CacheEntry) :=
  (q, e) :: c.entries.filter (·.1 ≠ q)

/-- Looks a query up at instant `now`: the answer and whether it is stale. A hit makes the
key the most recently used. -/
def lookup (now : Nat) (q : Query) (c : AnswerCache) : (Option Answer × Bool) × AnswerCache :=
  match c.find? q with
  | some e =>
    let stale := now ≥ e.expiresAt
    let counters := if stale then { c.counters with staleHits := c.counters.staleHits + 1 }
      else { c.counters with freshHits := c.counters.freshHits + 1 }
    ((some e.answer, stale), { c with entries := c.promote q e, counters })
  | none =>
    ((none, false), { c with counters := { c.counters with misses := c.counters.misses + 1 } })

/-- Stores an answer at instant `now`; none when it would go stale past the clock's end. -/
def store (now : Nat) (q : Query) (a : Answer) (c : AnswerCache) : Option AnswerCache := do
  let expiresAt ← clockAfter now (a.effectiveTtl c.minTtl * 1000)
  let e : CacheEntry := { answer := a, expiresAt }
  match c.find? q with
  | some _ =>
    pure { c with entries := c.promote q e,
                  counters := { c.counters with updates := c.counters.updates + 1 } }
  | none =>
    let counters := { c.counters with insertions := c.counters.insertions + 1 }
    if c.entries.length ≥ c.capacity then
      pure { c with entries := (q, e) :: c.entries.dropLast,
                    counters := { counters with evictions := counters.evictions + 1 } }
    else pure { c with entries := (q, e) :: c.entries, counters }

/-- The cache's size and counters. -/
def metrics (c : AnswerCache) : CacheMetrics :=
  let hits := c.counters.freshHits + c.counters.staleHits
  { totalEntries := c.size, capacity := c.capacity, counters := c.counters,
    hitRate := hitPercentage hits (hits + c.counters.misses) }

end AnswerCache

/-- A command to the cache, on a clock it shares. -/
inductive CacheCommand where
  | store (q : Query) (a : Answer)
  | lookup (q : Query)
  | advance (ms : Nat)
  | size
  | metrics

/-- What a cache command gives back. -/
inductive CacheReply where
  | stored (size : Nat)
  | found (answer : Option Answer) (stale : Bool)
  | advanced
  | size (size : Nat) (capacity : Nat)
  | metrics (m : CacheMetrics)

namespace AnswerCache

/-- Runs one command at instant `now`: the reply, the next instant and the cache after it;
none when the command would take the clock past its end. -/
def step (now : Nat) (c : AnswerCache) : CacheCommand → Option (CacheReply × Nat × AnswerCache)
  | .store q a => do
    let c ← c.store now q a
    pure (.stored c.size, now, c)
  | .lookup q =>
    let ((a, stale), c) := c.lookup now q
    some (.found a stale, now, c)
  | .advance ms => do
    let now ← clockAfter now ms
    pure (.advanced, now, c)
  | .size => some (.size c.size c.capacity, now, c)
  | .metrics => some (.metrics c.metrics, now, c)

/-- Runs commands in order from instant `now`, giving the replies; none when a command would
take the clock past its end. -/
def run (now : Nat) (c : AnswerCache) : List CacheCommand → Option (List CacheReply)
  | [] => some []
  | cmd :: rest => do
    let (r, now, c) ← c.step now cmd
    let rs ← run now c rest
    pure (r :: rs)

end AnswerCache
end SplitDns
