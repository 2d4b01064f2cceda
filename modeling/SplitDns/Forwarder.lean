import SplitDns.Cache
import SplitDns.Arbiter
/-!
# Handling a query

The forwarder answers from its cache when it can. A fresh entry is answered at once. A stale
entry is answered at once too, and then refreshed: the question is resolved again and a
successful answer replaces the entry. A missing entry is resolved before answering, and the
answer stored if it is a success. Failures are never stored, so a failing name is asked again
each time. Every handled query is reported, and every store, with the resolver it came from;
a store made before answering is reported before the query, a refresh after it.

A store whose answer would go stale past the clock's end cannot be made. Before answering, that
stops the handling altogether; in a refresh, which runs apart, it stops only the refresh, so
nothing is stored or reported for it. That is what a build that unwinds on a panic does, as the
default and test profiles do: the refresh task ends alone. The release profile aborts on a panic,
and there the failed refresh would end the whole process.
-/

namespace SplitDns

/-- What the forwarder reports. -/
inductive Event where
  /-- A query was answered, with this status, from this source. -/
  | handled (q : Query) (status : Rcode) (source : Source)
  /-- An answer of this many records from this resolver was stored for a query. -/
  | cacheUpdated (q : Query) (records : Nat) (source : Source)
  deriving Repr

/-- The resolvers of a forwarder and its address classifier. -/
structure Upstreams where
  fast : Resolver
  clean : Resolver
  isDomestic : IpAddr → Bool

/-- The outcome of handling a query. -/
structure Handled where
  answer : Answer
  source : Source
  events : List Event
  fastCalls : Nat
  cleanCalls : Nat
  classifierCalls : Nat

/-- Stores a successful answer, reporting it; leaves the cache alone otherwise. None when the
answer would go stale past the clock's end. -/
def storeAnswer (now : Nat) (q : Query) (a : Answer) (source : Source) (c : AnswerCache) :
    Option (AnswerCache × List Event) :=
  if a.isSuccess then (c.store now q a).map fun c => (c, [.cacheUpdated q a.records.length source])
  else some (c, [])

/-- Handles a query at instant `now`; none when an answer stored before answering would go
stale past the clock's end. -/
def handleQuery (u : Upstreams) (now : Nat) (q : Query) (c : AnswerCache) :
    Option (Handled × AnswerCache) :=
  match c.lookup now q with
  | ((some a, stale), c) =>
    let done := [Event.handled q a.status .cache]
    if stale then
      let r := resolve u.fast u.clean u.isDomestic q
      let (c, stored) := (storeAnswer now q r.answer r.source c).getD (c, [])
      let h : Handled :=
        { answer := a, source := .cache, events := done ++ stored,
          fastCalls := r.fastCalls, cleanCalls := r.cleanCalls, classifierCalls := r.classifierCalls }
      some (h, c)
    else
      let h : Handled :=
        { answer := a, source := .cache, events := done, fastCalls := 0, cleanCalls := 0,
          classifierCalls := 0 }
      some (h, c)
  | ((none, _), c) => do
    let r := resolve u.fast u.clean u.isDomestic q
    let (c, stored) ← storeAnswer now q r.answer r.source c
    let h : Handled :=
      { answer := r.answer, source := r.source,
        events := stored ++ [Event.handled q r.answer.status r.source],
        fastCalls := r.fastCalls, cleanCalls := r.cleanCalls, classifierCalls := r.classifierCalls }
    pure (h, c)

end SplitDns
