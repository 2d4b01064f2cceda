import Mathlib
import SplitDns.Cache
/-!
# Calls on the answer cache

Callers share one cache behind a lock. Each call reads the instant first and then runs whole
under the lock, so a run of concurrent callers is a list of calls, each with its own instant, in
the order they took the lock; the instants need not increase along it. `AnswerCache.replay`
makes such a list of calls and records what each did (`CallEffect`): what a lookup found, or
what a set stored and which keys it evicted, the keys the cache held before the set and not
after it.

This file gives each operation one lemma that says everything it can do (`lookup_cases`,
`store_cases`), the shape of the keys after each (`lookup_keys`, `store_keys`), and the
invariant every reachable cache keeps (`WellFormed`): a positive capacity, no more entries than
it, and no key twice. `replay_induction` packages the induction over a run once.
-/

namespace SplitDns

theorem clockAfter_eq_some {now ms t : Nat} (h : clockAfter now ms = some t) : t = now + ms := by
  unfold clockAfter at h
  split at h
  · exact (Option.some.inj h).symm
  · cases h

namespace AnswerCache

/-- The keys of the entries, most recently used first. -/
def keys (c : AnswerCache) : List Query := c.entries.map Prod.fst

/-! ## Finding an entry -/

@[simp] theorem length_keys (c : AnswerCache) : c.keys.length = c.size := by
  simp [keys, size]

theorem find?_eq_none_iff {c : AnswerCache} {q : Query} : c.find? q = none ↔ q ∉ c.keys := by
  simp only [find?, keys, Option.map_eq_none_iff, List.find?_eq_none, decide_eq_true_eq,
    List.mem_map, not_exists, not_and]

theorem find?_isSome_iff {c : AnswerCache} {q : Query} : (c.find? q).isSome ↔ q ∈ c.keys := by
  rw [← not_iff_not, Option.not_isSome_iff_eq_none, find?_eq_none_iff]

theorem mem_of_find?_eq_some {c : AnswerCache} {q : Query} {e : CacheEntry}
    (h : c.find? q = some e) : (q, e) ∈ c.entries := by
  obtain ⟨p, hp, rfl⟩ := Option.map_eq_some_iff.1 h
  have hq : p.1 = q := by simpa using List.find?_some hp
  rw [← hq]
  exact List.mem_of_find?_eq_some hp

theorem find?_of_entries {c c' : AnswerCache} (h : c'.entries = c.entries) (k : Query) :
    c'.find? k = c.find? k := by
  simp [find?, h]

theorem find?_of_cons {c' : AnswerCache} {q : Query} {e : CacheEntry}
    {rest : List (Query × CacheEntry)} (h : c'.entries = (q, e) :: rest) (k : Query) :
    c'.find? k = if q = k then some e else (rest.find? (·.1 = k)).map (·.2) := by
  by_cases hqk : q = k <;> simp [find?, h, hqk]

theorem find?_of_promote {c c' : AnswerCache} {q : Query} {e : CacheEntry}
    (h : c'.entries = c.promote q e) (k : Query) :
    c'.find? k = if q = k then some e else c.find? k := by
  rw [find?_of_cons h]
  split
  · rfl
  · rename_i hqk
    simp only [find?, List.find?_filter]
    congr 2
    funext p
    by_cases hp : p.1 = k
    · simp [hp, Ne.symm hqk]
    · simp [hp]

theorem find?_dropLast {l : List (Query × CacheEntry)} {k : Query}
    (hk : k ∈ l.dropLast.map Prod.fst) :
    l.dropLast.find? (·.1 = k) = l.find? (·.1 = k) := by
  have hne : l ≠ [] := by rintro rfl; simp at hk
  obtain ⟨p, hp, rfl⟩ := List.mem_map.1 hk
  have hsome : (l.dropLast.find? (·.1 = p.1)).isSome := by
    rw [List.find?_isSome]
    exact ⟨p, hp, by simp⟩
  conv_rhs => rw [← List.dropLast_append_getLast hne, List.find?_append]
  obtain ⟨x, hx⟩ := Option.isSome_iff_exists.1 hsome
  simp [hx]

theorem keys_promote (c : AnswerCache) (q : Query) (e : CacheEntry) :
    (c.promote q e).map Prod.fst = q :: c.keys.filter (· ≠ q) := by
  simp [promote, keys, List.filter_map, Function.comp_def]

theorem filter_ne_perm {ks : List Query} {q : Query} (hq : q ∈ ks) (hnd : ks.Nodup) :
    (q :: ks.filter (· ≠ q)).Perm ks := by
  have herase : ks.erase q = ks.filter (· ≠ q) := by
    rw [hnd.erase_eq_filter]
    congr 1
    funext k
    by_cases h : k = q <;> simp [h]
  rw [← herase]
  exact (List.perm_cons_erase hq).symm

theorem size_eq_of_keys {c c' : AnswerCache} (h : c'.keys.Perm c.keys) : c'.size = c.size := by
  rw [← length_keys, ← length_keys, h.length_eq]

/-! ## The two operations -/

/-- Everything a lookup can do: on a hit it gives the answer and whether it is stale, moves the
key to the front and counts a fresh or a stale hit; on a miss it only counts the miss. -/
theorem lookup_cases (c : AnswerCache) (now : Nat) (q : Query) :
    (c.lookup now q).2.capacity = c.capacity ∧ (c.lookup now q).2.minTtl = c.minTtl ∧
    ((∃ e, c.find? q = some e ∧ (c.lookup now q).1 = (some e.answer, decide (e.expiresAt ≤ now)) ∧
        (c.lookup now q).2.entries = c.promote q e ∧
        (c.lookup now q).2.counters = if e.expiresAt ≤ now
          then { c.counters with staleHits := c.counters.staleHits + 1 }
          else { c.counters with freshHits := c.counters.freshHits + 1 }) ∨
      (c.find? q = none ∧ (c.lookup now q).1 = (none, false) ∧
        (c.lookup now q).2.entries = c.entries ∧
        (c.lookup now q).2.counters = { c.counters with misses := c.counters.misses + 1 })) := by
  unfold lookup
  cases hfind : c.find? q with
  | none => exact ⟨rfl, rfl, .inr ⟨rfl, rfl, rfl, rfl⟩⟩
  | some e => exact ⟨rfl, rfl, .inl ⟨e, rfl, rfl, rfl, rfl⟩⟩

/-- Everything a set that succeeds can do: the new entry goes stale the answer's lifetime after
`now`; a key present is replaced and moved to the front; a new key goes in front, with the last
entry dropped when the cache is full. -/
theorem store_cases {c c' : AnswerCache} {now : Nat} {q : Query} {a : Answer}
    (h : c.store now q a = some c') :
    c'.capacity = c.capacity ∧ c'.minTtl = c.minTtl ∧
    ((q ∈ c.keys ∧
        c'.entries = c.promote q ⟨a, now + a.effectiveTtl c.minTtl * 1000⟩ ∧
        c'.counters = { c.counters with updates := c.counters.updates + 1 }) ∨
      (q ∉ c.keys ∧ c.size < c.capacity ∧
        c'.entries = (q, ⟨a, now + a.effectiveTtl c.minTtl * 1000⟩) :: c.entries ∧
        c'.counters = { c.counters with insertions := c.counters.insertions + 1 }) ∨
      (q ∉ c.keys ∧ c.capacity ≤ c.size ∧
        c'.entries = (q, ⟨a, now + a.effectiveTtl c.minTtl * 1000⟩) :: c.entries.dropLast ∧
        c'.counters = { c.counters with insertions := c.counters.insertions + 1,
                                        evictions := c.counters.evictions + 1 })) := by
  unfold store at h
  cases hclock : clockAfter now (a.effectiveTtl c.minTtl * 1000) with
  | none => simp [hclock] at h
  | some t =>
    have ht := clockAfter_eq_some hclock
    subst ht
    simp only [hclock, Option.bind_eq_bind, Option.bind_some] at h
    split at h
    · rename_i e hfind
      have hq : q ∈ c.keys := find?_isSome_iff.1 (by simp [hfind])
      cases h
      exact ⟨rfl, rfl, .inl ⟨hq, rfl, rfl⟩⟩
    · rename_i hfind
      have hq : q ∉ c.keys := find?_eq_none_iff.1 hfind
      split at h
      · cases h
        exact ⟨rfl, rfl, .inr (.inr ⟨hq, by simpa [size] using ‹_›, rfl, rfl⟩)⟩
      · cases h
        exact ⟨rfl, rfl, .inr (.inl ⟨hq, by simp [size]; omega, rfl, rfl⟩)⟩

section
variable {c c' : AnswerCache} {now : Nat} {q k : Query} {a : Answer}

theorem lookup_find? (c : AnswerCache) (now : Nat) (q k : Query) :
    (c.lookup now q).2.find? k = c.find? k := by
  obtain ⟨-, -, ⟨e, hfind, -, he, -⟩ | ⟨-, -, he, -⟩⟩ := lookup_cases c now q
  · rw [find?_of_promote he]
    split
    · subst_vars
      exact hfind.symm
    · rfl
  · exact find?_of_entries he k

theorem lookup_keys (c : AnswerCache) (now : Nat) (q : Query) :
    (c.lookup now q).2.keys = if q ∈ c.keys then q :: c.keys.filter (· ≠ q) else c.keys := by
  obtain ⟨-, -, ⟨e, hfind, -, he, -⟩ | ⟨hfind, -, he, -⟩⟩ := lookup_cases c now q
  · rw [if_pos (find?_isSome_iff.1 (by simp [hfind])), keys, he, keys_promote]
  · rw [if_neg (find?_eq_none_iff.1 hfind), keys, he, keys]

theorem store_keys (h : c.store now q a = some c') :
    (q ∈ c.keys ∧ c'.keys = q :: c.keys.filter (· ≠ q)) ∨
      (q ∉ c.keys ∧ c.size < c.capacity ∧ c'.keys = q :: c.keys) ∨
      (q ∉ c.keys ∧ c.capacity ≤ c.size ∧ c'.keys = q :: c.keys.dropLast) := by
  obtain ⟨-, -, ⟨hq, he, -⟩ | ⟨hq, hlt, he, -⟩ | ⟨hq, hle, he, -⟩⟩ := store_cases h
  · exact .inl ⟨hq, by rw [keys, he, keys_promote]⟩
  · exact .inr (.inl ⟨hq, hlt, by simp [keys, he]⟩)
  · exact .inr (.inr ⟨hq, hle, by simp [keys, he]⟩)

theorem store_find?_self (h : c.store now q a = some c') :
    c'.find? q = some ⟨a, now + a.effectiveTtl c.minTtl * 1000⟩ := by
  obtain ⟨-, -, ⟨-, he, -⟩ | ⟨-, -, he, -⟩ | ⟨-, -, he, -⟩⟩ := store_cases h
  · simp [find?_of_promote he]
  · simp [find?_of_cons he]
  · simp [find?_of_cons he]

theorem store_find?_of_ne (h : c.store now q a = some c') (hk : q ≠ k) :
    c'.find? k = if k ∈ c'.keys then c.find? k else none := by
  split
  · rename_i hmem
    obtain ⟨-, -, ⟨-, he, -⟩ | ⟨-, -, he, -⟩ | ⟨-, -, he, -⟩⟩ := store_cases h
    · simp [find?_of_promote he, hk]
    · rw [find?_of_cons he, if_neg hk]
      rfl
    · rw [find?_of_cons he, if_neg hk, find?_dropLast]
      · rfl
      · simpa [keys, he, Ne.symm hk] using hmem
  · exact find?_eq_none_iff.2 ‹_›

theorem store_find?_of_kept (h : c.store now q a = some c') (hk : q ≠ k)
    (hkept : k ∈ c.keys → k ∈ c'.keys) : c'.find? k = c.find? k := by
  rw [store_find?_of_ne h hk]
  split
  · rfl
  · next hnot => exact (find?_eq_none_iff.2 fun hmem => hnot (hkept hmem)).symm

end

/-! ## The invariant -/

/-- What every cache the calls reach satisfies: a positive capacity, no more entries than it,
and no key twice. -/
structure WellFormed (c : AnswerCache) : Prop where
  capacity_pos : 0 < c.capacity
  size_le : c.size ≤ c.capacity
  nodup : c.keys.Nodup

section
variable {c c' : AnswerCache} {now : Nat} {q : Query} {a : Answer}

theorem wellFormed_create {cap minTtl : Nat} (h : create? cap minTtl = some c) :
    c.WellFormed ∧ c.capacity = cap ∧ c.minTtl = minTtl ∧ c.entries = [] ∧ c.counters = {} := by
  unfold create? at h
  split at h
  · cases h
  · cases h
    exact ⟨⟨Nat.pos_of_ne_zero ‹_›, by simp [size], by simp [keys]⟩, rfl, rfl, rfl, rfl⟩

theorem WellFormed.lookup_keys_perm (hc : c.WellFormed) (now : Nat) (q : Query) :
    (c.lookup now q).2.keys.Perm c.keys := by
  rw [lookup_keys]
  split
  · exact filter_ne_perm ‹_› hc.nodup
  · exact List.Perm.refl _

theorem WellFormed.lookup (hc : c.WellFormed) (now : Nat) (q : Query) :
    (c.lookup now q).2.WellFormed := by
  have hperm := hc.lookup_keys_perm now q
  obtain ⟨hcap, -, -⟩ := lookup_cases c now q
  refine ⟨hcap ▸ hc.capacity_pos, ?_, hperm.nodup_iff.2 hc.nodup⟩
  rw [size_eq_of_keys hperm, hcap]
  exact hc.size_le

theorem WellFormed.store_size (hc : c.WellFormed) (h : c.store now q a = some c') :
    c'.size = if q ∉ c.keys ∧ c.size < c.capacity then c.size + 1 else c.size := by
  rcases store_keys h with ⟨hq, hk⟩ | ⟨hq, hlt, hk⟩ | ⟨hq, hle, hk⟩
  · rw [if_neg (fun h => h.1 hq)]
    exact size_eq_of_keys (hk ▸ filter_ne_perm hq hc.nodup)
  · rw [if_pos ⟨hq, hlt⟩, ← length_keys, hk, List.length_cons, length_keys]
  · have := hc.capacity_pos
    have := hc.size_le
    rw [if_neg (by omega), ← length_keys, hk, List.length_cons, List.length_dropLast,
      length_keys]
    omega

theorem WellFormed.store (hc : c.WellFormed) (h : c.store now q a = some c') : c'.WellFormed := by
  obtain ⟨hcap, -, -⟩ := store_cases h
  have hsize := hc.store_size h
  refine ⟨hcap ▸ hc.capacity_pos, ?_, ?_⟩
  · have := hc.size_le
    split at hsize <;> omega
  · rcases store_keys h with ⟨hq, hk⟩ | ⟨hq, -, hk⟩ | ⟨hq, -, hk⟩ <;> rw [hk]
    · exact (filter_ne_perm hq hc.nodup).nodup_iff.2 hc.nodup
    · exact List.nodup_cons.2 ⟨hq, hc.nodup⟩
    · exact List.nodup_cons.2 ⟨fun hmem => hq (List.mem_of_mem_dropLast hmem),
        (List.dropLast_sublist _).nodup hc.nodup⟩

end

end AnswerCache

/-! ## Runs of calls -/

/-- A call on the cache, with the instant its caller read before taking the lock. -/
inductive CacheCall where
  | lookup (now : Nat) (q : Query)
  | set (now : Nat) (q : Query) (a : Answer)

/-- What one call did: what a lookup gave back, or what a set stored and the keys it evicted. -/
inductive CallEffect where
  | looked (q : Query) (answer : Option Answer) (stale : Bool)
  | stored (now : Nat) (q : Query) (a : Answer) (evicted : List Query)

namespace CallEffect

/-- The key a call touched: a set's key, or a lookup's key when it was found. -/
def touched : CallEffect → Option Query
  | .looked q (some _) _ => some q
  | .looked _ none _ => none
  | .stored _ q _ _ => some q

/-- The key a set stored under. -/
def setKey : CallEffect → Option Query
  | .looked .. => none
  | .stored _ q _ _ => some q

/-- The keys a call evicted. -/
def evicted : CallEffect → List Query
  | .looked .. => []
  | .stored _ _ _ ev => ev

end CallEffect

namespace AnswerCache

/-- The keys of `c` that `c'` no longer holds. -/
def evictedBy (c c' : AnswerCache) : List Query := c.keys.filter (· ∉ c'.keys)

@[simp] theorem mem_evictedBy {c c' : AnswerCache} {k : Query} :
    k ∈ c.evictedBy c' ↔ k ∈ c.keys ∧ k ∉ c'.keys := by
  simp [evictedBy]

/-- Makes one call atomically: its effect and the cache after it; none when a set would go
stale past the clock's end. -/
def call (c : AnswerCache) : CacheCall → Option (CallEffect × AnswerCache)
  | .lookup now q =>
    let (found, c') := c.lookup now q
    some (.looked q found.1 found.2, c')
  | .set now q a => (c.store now q a).map fun c' => (.stored now q a (c.evictedBy c'), c')

/-- Makes calls in order: their effects and the cache after them. -/
def replay (c : AnswerCache) : List CacheCall → Option (List CallEffect × AnswerCache)
  | [] => some ([], c)
  | x :: xs => do
    let (eff, c') ← c.call x
    let (effs, c'') ← c'.replay xs
    pure (eff :: effs, c'')

theorem call_cases {c c' : AnswerCache} {x : CacheCall} {eff : CallEffect}
    (h : c.call x = some (eff, c')) :
    (∃ now q, x = .lookup now q ∧
        eff = .looked q (c.lookup now q).1.1 (c.lookup now q).1.2 ∧ c' = (c.lookup now q).2) ∨
      ∃ now q a, x = .set now q a ∧ c.store now q a = some c' ∧
        eff = .stored now q a (c.evictedBy c') := by
  cases x with
  | lookup now q =>
    simp only [call, Option.some.injEq, Prod.mk.injEq] at h
    obtain ⟨rfl, rfl⟩ := h
    exact .inl ⟨now, q, rfl, rfl, rfl⟩
  | set now q a =>
    obtain ⟨c'', hs, he⟩ := Option.map_eq_some_iff.1 h
    simp only [Prod.mk.injEq] at he
    obtain ⟨rfl, rfl⟩ := he
    exact .inr ⟨now, q, a, rfl, hs, rfl⟩

theorem replay_cons {c s : AnswerCache} {x : CacheCall} {xs : List CacheCall}
    {effs : List CallEffect} (h : c.replay (x :: xs) = some (effs, s)) :
    ∃ eff c' effs', c.call x = some (eff, c') ∧ c'.replay xs = some (effs', s) ∧
      effs = eff :: effs' := by
  simp only [replay, Option.bind_eq_bind] at h
  cases hx : c.call x with
  | none => simp [hx] at h
  | some r =>
    obtain ⟨eff, c'⟩ := r
    cases hr : c'.replay xs with
    | none => simp [hx, hr] at h
    | some r' =>
      obtain ⟨effs', s'⟩ := r'
      simp only [hx, hr, Option.bind_some, Option.pure_def, Option.some.injEq, Prod.mk.injEq] at h
      obtain ⟨rfl, rfl⟩ := h
      exact ⟨eff, c', effs', rfl, hr, rfl⟩

/-- What holds of a history and the cache it led to, and is kept by every call, holds after any
run of calls. -/
theorem replay_induction (P : List CallEffect → AnswerCache → Prop)
    (step : ∀ pre c x eff c', P pre c → c.call x = some (eff, c') → P (pre ++ [eff]) c')
    {xs : List CacheCall} :
    ∀ {pre c effs s}, P pre c → c.replay xs = some (effs, s) → P (pre ++ effs) s := by
  induction xs with
  | nil =>
    intro pre c effs s hP h
    simp only [replay, Option.some.injEq, Prod.mk.injEq] at h
    obtain ⟨rfl, rfl⟩ := h
    simpa using hP
  | cons x xs ih =>
    intro pre c effs s hP h
    obtain ⟨eff, c', effs', hx, hrest, rfl⟩ := replay_cons h
    simpa using ih (step pre c x eff c' hP hx) hrest

end AnswerCache
end SplitDns
