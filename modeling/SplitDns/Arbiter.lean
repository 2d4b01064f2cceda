import SplitDns.Dns.Answer
import SplitDns.Error
/-!
# Choosing between the fast and the clean resolver

The forwarder asks the fast resolver first. Its answer is trusted when it succeeded and
either the question is not for an address, or one of its addresses is domestic: a poisoned
answer to a foreign name points abroad, while a genuine one for a domestic name points home.
The classifier looks at the addresses in record order and stops at the first domestic one.
An answer not trusted, or a fast resolver that failed, sends the question to the clean
resolver, whose answer is taken whatever its status; if the clean resolver fails as well the
answer is a server failure. Each question put to a resolver is counted as it is asked, and each
address the classifier looks at, so a resolution reports the calls it made.
-/

namespace SplitDns

/-- A resolver as the forwarder sees it: the answer to a query, or why there is none. -/
abbrev Resolver := Query → Except DomainError Answer

/-- The questions put so far to the fast and to the clean resolver. -/
structure Asked where
  fast : Nat := 0
  clean : Nat := 0

/-- A computation that puts questions to the resolvers and counts them. -/
abbrev Asking := StateM Asked

/-- Asks a resolver and adds the question to its count. -/
def ask (r : Resolver) (tally : Asked → Asked) (q : Query) : Asking (Except DomainError Answer) :=
  modifyGet fun n => (r q, tally n)

/-- The outcome of resolving a query: the answer, where it came from, the questions put to each
resolver, and how many addresses the classifier looked at. -/
structure Resolution where
  answer : Answer
  source : Source
  fastCalls : Nat
  cleanCalls : Nat
  classifierCalls : Nat

/-- Whether the clean resolver was asked. -/
def Resolution.cleanAsked (r : Resolution) : Bool := r.cleanCalls != 0

/-- Whether some address is domestic, and how many addresses were looked at to find out. -/
def firstDomestic (isDomestic : IpAddr → Bool) : List IpAddr → Bool × Nat
  | [] => (false, 0)
  | ip :: rest =>
    if isDomestic ip then (true, 1)
    else
      let (found, n) := firstDomestic isDomestic rest
      (found, n + 1)

/-- Whether the fast resolver's answer is trusted, and how many addresses were classified. -/
def trusts (isDomestic : IpAddr → Bool) (q : Query) (a : Answer) : Bool × Nat :=
  if !a.isSuccess then (false, 0)
  else if !q.type.isAddress then (true, 0)
  else firstDomestic isDomestic a.addresses

/-- Chooses the answer, asking the resolvers as it goes: the answer, where it came from, and how
many addresses the classifier looked at. -/
def arbitrate (fast clean : Resolver) (isDomestic : IpAddr → Bool) (q : Query) :
    Asking (Answer × Source × Nat) := do
  let (trusted, calls) := match ← ask fast (fun n => { n with fast := n.fast + 1 }) q with
    | .ok a => match trusts isDomestic q a with
      | (true, n) => (some a, n)
      | (false, n) => (none, n)
    | .error _ => (none, 0)
  match trusted with
  | some a => pure (a, .fast, calls)
  | none =>
    let answer := match ← ask clean (fun n => { n with clean := n.clean + 1 }) q with
      | .ok a => a
      | .error _ => Answer.serverFailure
    pure (answer, .clean, calls)

/-- Resolves a query with the fast resolver, falling back on the clean one, counting the
questions put to each. -/
def resolve (fast clean : Resolver) (isDomestic : IpAddr → Bool) (q : Query) : Resolution :=
  let ((answer, source, classifierCalls), asked) := (arbitrate fast clean isDomestic q).run {}
  { answer, source, fastCalls := asked.fast, cleanCalls := asked.clean, classifierCalls }

end SplitDns
