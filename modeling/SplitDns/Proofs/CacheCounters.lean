import SplitDns.Proofs.CacheCalls
/-!
# The cache's counters account for every call

Over any run of calls from a new cache (`counters_account_for_calls`): the fresh hits, stale
hits and misses add up to the lookups made, the fresh hits are exactly the lookups that found an
entry not yet stale and the stale hits those that found a stale one; insertions and updates add
up to the sets made; and the size is the insertions less the evictions, which is the insertions
capped at the capacity, so that evictions are the insertions beyond the capacity.

Each call bumps one counter, in the branch that also decides what it gives back
(`counters_lookup`, `counters_store`), and the size moves with the insertions until the cache
is full (`WellFormed.store_size`); the invariant `Accounts` carries both along the run.
-/

namespace SplitDns

namespace CacheCall

/-- Whether a call is a lookup. -/
def isLookup : CacheCall → Bool
  | .lookup .. => true
  | .set .. => false

end CacheCall

namespace CallEffect

/-- Whether a call was a lookup. -/
def isLookup : CallEffect → Bool
  | .looked .. => true
  | .stored .. => false

/-- A lookup that found an entry not yet stale. -/
def isFreshHit : CallEffect → Bool
  | .looked _ (some _) false => true
  | _ => false

/-- A lookup that found a stale entry. -/
def isStaleHit : CallEffect → Bool
  | .looked _ (some _) true => true
  | _ => false

/-- A lookup that found nothing. -/
def isMiss : CallEffect → Bool
  | .looked _ none _ => true
  | _ => false

theorem countP_hits_add_misses (effs : List CallEffect) :
    effs.countP isFreshHit + effs.countP isStaleHit + effs.countP isMiss =
      effs.countP isLookup := by
  induction effs with
  | nil => rfl
  | cons e es ih =>
    rcases e with ⟨q, _ | a, _ | _⟩ | ⟨now, q, a, ev⟩ <;>
      simp [List.countP_cons, isFreshHit, isStaleHit, isMiss, isLookup] <;> omega

end CallEffect

namespace AnswerCache
open CallEffect

theorem call_isLookup {c c' : AnswerCache} {x : CacheCall} {eff : CallEffect}
    (h : c.call x = some (eff, c')) : eff.isLookup = x.isLookup := by
  rcases call_cases h with ⟨now, q, rfl, rfl, -⟩ | ⟨now, q, a, rfl, -, rfl⟩ <;> rfl

theorem replay_isLookup {c s : AnswerCache} {calls : List CacheCall} {effs : List CallEffect}
    (h : c.replay calls = some (effs, s)) : effs.map isLookup = calls.map CacheCall.isLookup := by
  induction calls generalizing c effs with
  | nil =>
    simp only [replay, Option.some.injEq, Prod.mk.injEq] at h
    rw [← h.1]
    rfl
  | cons x xs ih =>
    obtain ⟨eff, c', effs', hx, hrest, rfl⟩ := replay_cons h
    simp [call_isLookup hx, ih hrest]

/-- The counters a lookup bumps: one of the three, as its result says. -/
theorem counters_lookup (c : AnswerCache) (now : Nat) (q : Query) :
    let eff := CallEffect.looked q (c.lookup now q).1.1 (c.lookup now q).1.2
    let k := (c.lookup now q).2.counters
    k.freshHits = c.counters.freshHits + (if eff.isFreshHit then 1 else 0) ∧
    k.staleHits = c.counters.staleHits + (if eff.isStaleHit then 1 else 0) ∧
    k.misses = c.counters.misses + (if eff.isMiss then 1 else 0) ∧
    k.insertions = c.counters.insertions ∧ k.updates = c.counters.updates ∧
    k.evictions = c.counters.evictions := by
  obtain ⟨-, -, ⟨e, -, hfst, -, hk⟩ | ⟨-, hfst, -, hk⟩⟩ := lookup_cases c now q
  · simp only [hfst, hk]
    by_cases hstale : e.expiresAt ≤ now <;> simp [hstale, isFreshHit, isStaleHit, isMiss]
  · simp [hfst, hk, isFreshHit, isStaleHit, isMiss]

/-- The counters a set bumps: an update on a key present, else an insertion, with an eviction
when the cache is full. -/
theorem counters_store {c c' : AnswerCache} {now : Nat} {q : Query} {a : Answer}
    (h : c.store now q a = some c') :
    c'.counters.freshHits = c.counters.freshHits ∧ c'.counters.staleHits = c.counters.staleHits ∧
    c'.counters.misses = c.counters.misses ∧
    c'.counters.insertions + c'.counters.updates = c.counters.insertions + c.counters.updates + 1 ∧
    c'.counters.insertions = c.counters.insertions + (if q ∈ c.keys then 0 else 1) ∧
    c'.counters.evictions =
      c.counters.evictions + (if q ∉ c.keys ∧ c.capacity ≤ c.size then 1 else 0) := by
  obtain ⟨-, -, ⟨hq, -, hk⟩ | ⟨hq, hlt, -, hk⟩ | ⟨hq, hle, -, hk⟩⟩ := store_cases h
  · simp [hk, hq]
    omega
  · simp [hk, hq]
    omega
  · simp [hk, hq, hle]
    omega

/-- The counters agree with the history, and the size with the insertions and evictions. -/
structure Accounts (cap : Nat) (effs : List CallEffect) (c : AnswerCache) : Prop where
  wellFormed : c.WellFormed
  capacity_eq : c.capacity = cap
  freshHits : c.counters.freshHits = effs.countP isFreshHit
  staleHits : c.counters.staleHits = effs.countP isStaleHit
  misses : c.counters.misses = effs.countP isMiss
  sets : c.counters.insertions + c.counters.updates = effs.countP (!·.isLookup)
  size_add : c.size + c.counters.evictions = c.counters.insertions
  size_eq : c.size = min c.counters.insertions cap

variable {cap minTtl : Nat} {effs : List CallEffect} {c c' s : AnswerCache}

theorem accounts_create (h : create? cap minTtl = some c) : Accounts cap [] c := by
  obtain ⟨hwf, hcap, -, hentries, hk⟩ := wellFormed_create h
  have hsize : c.size = 0 := by simp [size, hentries]
  exact ⟨hwf, hcap, by simp [hk], by simp [hk], by simp [hk], by simp [hk], by simp [hk, hsize],
    by simp [hk, hsize]⟩

theorem Accounts.lookup (hc : Accounts cap effs c) (now : Nat) (q : Query) :
    Accounts cap (effs ++ [.looked q (c.lookup now q).1.1 (c.lookup now q).1.2])
      (c.lookup now q).2 := by
  obtain ⟨hfresh, hstale, hmiss, hins, hupd, hev⟩ := counters_lookup c now q
  obtain ⟨hcap, -, -⟩ := lookup_cases c now q
  have hsize := size_eq_of_keys (hc.wellFormed.lookup_keys_perm now q)
  refine ⟨hc.wellFormed.lookup now q, hcap ▸ hc.capacity_eq, ?_, ?_, ?_, ?_, ?_, ?_⟩
  · rw [hfresh, hc.freshHits, List.countP_append, List.countP_singleton]
  · rw [hstale, hc.staleHits, List.countP_append, List.countP_singleton]
  · rw [hmiss, hc.misses, List.countP_append, List.countP_singleton]
  · rw [hins, hupd, hc.sets, List.countP_append]
    simp [isLookup]
  · rw [hsize, hev, hins]
    exact hc.size_add
  · rw [hsize, hins]
    exact hc.size_eq

theorem Accounts.store (hc : Accounts cap effs c) {now : Nat} {q : Query} {a : Answer}
    (h : c.store now q a = some c') :
    Accounts cap (effs ++ [.stored now q a (c.evictedBy c')]) c' := by
  obtain ⟨hfresh, hstale, hmiss, hsets, hins, hev⟩ := counters_store h
  obtain ⟨hcap, -, -⟩ := store_cases h
  have hsize := hc.wellFormed.store_size h
  have hle := hc.wellFormed.size_le
  have hadd := hc.size_add
  have hmin := hc.size_eq
  have := hc.capacity_eq
  refine ⟨hc.wellFormed.store h, hcap ▸ hc.capacity_eq, ?_, ?_, ?_, ?_, ?_, ?_⟩
  · simp [hfresh, hc.freshHits, isFreshHit]
  · simp [hstale, hc.staleHits, isStaleHit]
  · simp [hmiss, hc.misses, isMiss]
  · simp [hsets, hc.sets, isLookup]
  · -- a new key with room adds an entry; a new key on a full cache trades one for another
    by_cases hq : q ∈ c.keys
    · simp only [hq, not_true_eq_false, false_and, if_false, if_true] at hsize hins hev
      omega
    · simp only [hq, not_false_eq_true, true_and, if_false] at hsize hins hev
      split at hsize <;> split at hev <;> omega
  · by_cases hq : q ∈ c.keys
    · simp only [hq, not_true_eq_false, false_and, if_false, if_true] at hsize hins
      omega
    · simp only [hq, not_false_eq_true, true_and, if_false] at hsize hins
      split at hsize <;> omega

theorem Accounts.call (hc : Accounts cap effs c) {x : CacheCall} {eff : CallEffect}
    (h : c.call x = some (eff, c')) : Accounts cap (effs ++ [eff]) c' := by
  rcases call_cases h with ⟨now, q, -, rfl, rfl⟩ | ⟨now, q, a, -, hs, rfl⟩
  · exact hc.lookup now q
  · exact hc.store hs

end AnswerCache

open CallEffect

/-- The counters account for every call: after any run of calls from a new cache, hits and
misses add up to the lookups, fresh and stale hits are the lookups that found an entry not
stale and stale, insertions and updates add up to the sets, and the size is the insertions less
the evictions, that is the insertions capped at the capacity. -/
theorem counters_account_for_calls {cap minTtl : Nat} {c₀ s : AnswerCache}
    (calls : List CacheCall) {effs : List CallEffect}
    (hnew : AnswerCache.create? cap minTtl = some c₀) (hrun : c₀.replay calls = some (effs, s)) :
    s.metrics.counters.freshHits + s.metrics.counters.staleHits + s.metrics.counters.misses =
        calls.countP CacheCall.isLookup ∧
      s.metrics.counters.freshHits = effs.countP isFreshHit ∧
      s.metrics.counters.staleHits = effs.countP isStaleHit ∧
      s.metrics.counters.insertions + s.metrics.counters.updates =
        calls.countP (!·.isLookup) ∧
      s.metrics.totalEntries = s.metrics.counters.insertions - s.metrics.counters.evictions ∧
      s.metrics.totalEntries = min s.metrics.counters.insertions cap ∧
      s.metrics.counters.evictions = s.metrics.counters.insertions - cap := by
  have hs : AnswerCache.Accounts cap effs s := by
    simpa using AnswerCache.replay_induction (AnswerCache.Accounts cap)
      (fun _ _ _ _ _ hP hx => hP.call hx) (AnswerCache.accounts_create hnew) hrun
  have hkinds := AnswerCache.replay_isLookup hrun
  have hcount (p : Bool → Bool) : calls.countP (p ∘ CacheCall.isLookup) =
      effs.countP (p ∘ isLookup) := by
    rw [← List.countP_map, ← List.countP_map, hkinds]
  have hmin := hs.size_eq
  have hadd := hs.size_add
  simp only [AnswerCache.metrics]
  refine ⟨?_, hs.freshHits, hs.staleHits, ?_, by omega, hmin, by omega⟩
  · rw [hs.freshHits, hs.staleHits, hs.misses, countP_hits_add_misses]
    exact (hcount id).symm
  · rw [hs.sets]
    exact (hcount (!·)).symm

/-- A set and then a lookup at the same instant of an answer with no records and no floor: one
insertion and one stale hit. -/
theorem counters_account_for_calls_stale_hit :
    AnswerCache.create? 1 0 = some { capacity := 1, minTtl := 0 } ∧
    ({ capacity := 1, minTtl := 0 } : AnswerCache).replay
        [.set 0 { domain := "a.example", type := RecordType.a } { status := Rcode.noError },
         .lookup 0 { domain := "a.example", type := RecordType.a }] =
      some ([.stored 0 { domain := "a.example", type := RecordType.a }
                { status := Rcode.noError } [],
             .looked { domain := "a.example", type := RecordType.a }
                (some { status := Rcode.noError }) true],
        { capacity := 1, minTtl := 0,
          entries := [({ domain := "a.example", type := RecordType.a },
            ⟨{ status := Rcode.noError }, 0⟩)],
          counters := { staleHits := 1, insertions := 1 } }) ∧
    let calls : List CacheCall :=
      [.set 0 { domain := "a.example", type := RecordType.a } { status := Rcode.noError },
       .lookup 0 { domain := "a.example", type := RecordType.a }]
    let effs : List CallEffect :=
      [.stored 0 { domain := "a.example", type := RecordType.a } { status := Rcode.noError } [],
       .looked { domain := "a.example", type := RecordType.a } (some { status := Rcode.noError })
         true]
    let s : AnswerCache :=
      { capacity := 1, minTtl := 0,
        entries := [({ domain := "a.example", type := RecordType.a },
          ⟨{ status := Rcode.noError }, 0⟩)],
        counters := { staleHits := 1, insertions := 1 } }
    s.metrics.counters.freshHits + s.metrics.counters.staleHits + s.metrics.counters.misses =
        calls.countP CacheCall.isLookup ∧
      s.metrics.counters.freshHits = effs.countP isFreshHit ∧
      s.metrics.counters.staleHits = effs.countP isStaleHit ∧
      s.metrics.counters.insertions + s.metrics.counters.updates =
        calls.countP (!·.isLookup) ∧
      s.metrics.totalEntries = s.metrics.counters.insertions - s.metrics.counters.evictions ∧
      s.metrics.totalEntries = min s.metrics.counters.insertions 1 ∧
      s.metrics.counters.evictions = s.metrics.counters.insertions - 1 :=
  ⟨rfl, rfl, @counters_account_for_calls 1 0 _ _
    [.set 0 { domain := "a.example", type := RecordType.a } { status := Rcode.noError },
     .lookup 0 { domain := "a.example", type := RecordType.a }] _ rfl rfl⟩

end SplitDns
