import SplitDns.Proofs.CacheCalls
/-!
# The answer cache is a bounded LRU map with lazy expiry

Over any run of calls from a new cache (`lru_with_lazy_expiry`), each call made atomically at its
own instant:

* the cache never holds more entries than its capacity, nor a key twice;
* a lookup finds exactly the answer of the latest set of its key when no call evicted the key
  since, and calls it stale exactly when the instant has reached the set's instant plus the
  answer's lifetime; otherwise it finds nothing and leaves the entries alone; no lookup removes
  or changes an entry, however stale (`LookupLaw`);
* a set on a key present, or with room left, evicts nothing and keeps every other entry; a set
  on a new key when the cache is full evicts exactly one key, the one whose latest touch (a set,
  or a lookup that found it) is the oldest (`SetLaw`).

The history is the list of effects the run recorded; `LatestSet` and `TouchedAfter` read it. The
argument is one invariant, `Tracks`: each key holds the entry of its latest set, and the keys
stand in the order of their latest touches. Every call keeps it (`Tracks.call`), and the two laws
follow from it.
-/

namespace SplitDns

theorem eq_append_cons_of_snoc {α : Type} {l pre post : List α} {x y : α}
    (h : l ++ [y] = pre ++ x :: post) :
    (post = [] ∧ pre = l ∧ x = y) ∨ ∃ post', post = post' ++ [y] ∧ l = pre ++ x :: post' := by
  rcases List.eq_nil_or_concat post with rfl | ⟨post', z, rfl⟩
  · rw [List.append_singleton_inj] at h
    exact .inl ⟨rfl, h.1.symm, h.2.symm⟩
  · have h' : l ++ [y] = (pre ++ x :: post') ++ [z] := by rw [h]; simp
    rw [List.append_singleton_inj] at h'
    obtain ⟨rfl, rfl⟩ := h'
    exact .inr ⟨post', by simp, rfl⟩

namespace CallEffect

/-! ## Reading the history -/

/-- In the history `effs`, the latest set of `q` was made at `tset` with the answer `a`, and no
call after it evicted `q`. -/
def LatestSet (effs : List CallEffect) (q : Query) (tset : Nat) (a : Answer) : Prop :=
  ∃ pre evicted post, effs = pre ++ CallEffect.stored tset q a evicted :: post ∧
    ∀ eff ∈ post, eff.setKey ≠ some q ∧ q ∉ eff.evicted

/-- In the history `effs`, a call after the latest touch of `k` touched `k'`. -/
def TouchedAfter (effs : List CallEffect) (k' k : Query) : Prop :=
  ∃ pre eff post, effs = pre ++ eff :: post ∧ eff.touched = some k' ∧
    ∀ e ∈ post, e.touched ≠ some k

variable {effs : List CallEffect} {eff : CallEffect}

theorem latestSet_snoc {q : Query} {t : Nat} {a : Answer} :
    LatestSet (effs ++ [eff]) q t a ↔
      (∃ ev, eff = .stored t q a ev) ∨
        (LatestSet effs q t a ∧ eff.setKey ≠ some q ∧ q ∉ eff.evicted) := by
  constructor
  · rintro ⟨pre, ev, post, h, hpost⟩
    rcases eq_append_cons_of_snoc h with ⟨rfl, rfl, rfl⟩ | ⟨post', rfl, rfl⟩
    · exact .inl ⟨ev, rfl⟩
    · exact .inr ⟨⟨pre, ev, post', rfl, fun e he => hpost e (by simp [he])⟩, hpost eff (by simp)⟩
  · rintro (⟨ev, rfl⟩ | ⟨⟨pre, ev, post, rfl, hpost⟩, hkey, hev⟩)
    · exact ⟨effs, ev, [], by simp, by simp⟩
    · refine ⟨pre, ev, post ++ [eff], by simp, fun e he => ?_⟩
      rcases List.mem_append.1 he with he | he
      · exact hpost e he
      · rw [List.mem_singleton.1 he]
        exact ⟨hkey, hev⟩

theorem touchedAfter_snoc {k' k : Query} (hne : k' ≠ k) :
    TouchedAfter (effs ++ [eff]) k' k ↔
      eff.touched ≠ some k ∧ (eff.touched = some k' ∨ TouchedAfter effs k' k) := by
  constructor
  · rintro ⟨pre, x, post, h, hx, hpost⟩
    rcases eq_append_cons_of_snoc h with ⟨rfl, rfl, rfl⟩ | ⟨post', rfl, rfl⟩
    · exact ⟨by simp [hx, hne], .inl hx⟩
    · exact ⟨hpost eff (by simp), .inr ⟨pre, x, post', rfl, hx, fun e he => hpost e (by simp [he])⟩⟩
  · rintro ⟨hk, hx | ⟨pre, x, post, rfl, hx, hpost⟩⟩
    · exact ⟨effs, eff, [], by simp, hx, by simp⟩
    · refine ⟨pre, x, post ++ [eff], by simp, hx, fun e he => ?_⟩
      rcases List.mem_append.1 he with he | he
      · exact hpost e he
      · rw [List.mem_singleton.1 he]
        exact hk

theorem pairwise_touch {ks L : List Query} {q : Query} (hnd : ks.Nodup)
    (hrec : ks.Pairwise (TouchedAfter effs)) (hL : L.Sublist ks) (hq : q ∉ L)
    (ht : eff.touched = some q) : (q :: L).Pairwise (TouchedAfter (effs ++ [eff])) := by
  refine List.pairwise_cons.2 ⟨fun k hk => ?_, ?_⟩
  · have hqk : q ≠ k := fun h => hq (h ▸ hk)
    exact (touchedAfter_snoc hqk).2 ⟨by simp [ht, hqk], .inl ht⟩
  · refine ((hnd.sublist hL).and (hrec.sublist hL)).imp_of_mem fun {k' k} _ hk ⟨hne, h⟩ => ?_
    have hqk : q ≠ k := fun h => hq (h ▸ hk)
    exact (touchedAfter_snoc hne).2 ⟨by simp [ht, hqk], .inr h⟩

theorem pairwise_untouched {ks : List Query} (hnd : ks.Nodup)
    (hrec : ks.Pairwise (TouchedAfter effs)) (ht : eff.touched = none) :
    ks.Pairwise (TouchedAfter (effs ++ [eff])) :=
  (hnd.and hrec).imp fun ⟨hne, h⟩ => (touchedAfter_snoc hne).2 ⟨by simp [ht], .inr h⟩

end CallEffect

namespace AnswerCache
open CallEffect

/-! ## The invariant -/

/-- What the calls keep of a cache beside well-formedness: its capacity and floor, each key's
entry is the one its latest set stored, and the keys stand in order of their latest touch. -/
structure Tracks (cap minTtl : Nat) (effs : List CallEffect) (c : AnswerCache) : Prop where
  wellFormed : c.WellFormed
  capacity_eq : c.capacity = cap
  minTtl_eq : c.minTtl = minTtl
  find?_iff : ∀ k e, c.find? k = some e ↔
    ∃ t a, LatestSet effs k t a ∧ e = ⟨a, t + a.effectiveTtl minTtl * 1000⟩
  recency : c.keys.Pairwise (TouchedAfter effs)

variable {cap minTtl : Nat} {effs : List CallEffect} {c c' s : AnswerCache} {now : Nat}
  {q : Query} {a : Answer}

theorem tracks_create (h : create? cap minTtl = some c) : Tracks cap minTtl [] c := by
  obtain ⟨hwf, hcap, hmin, hentries, -⟩ := wellFormed_create h
  refine ⟨hwf, hcap, hmin, fun k e => ?_, by simp [keys, hentries]⟩
  simp only [find?, hentries, List.find?_nil, Option.map_none, reduceCtorEq, false_iff,
    not_exists, not_and]
  rintro t a ⟨pre, ev, post, h, -⟩
  simp at h

theorem Tracks.lookup (hc : Tracks cap minTtl effs c) (now : Nat) (q : Query) :
    Tracks cap minTtl (effs ++ [.looked q (c.lookup now q).1.1 (c.lookup now q).1.2])
      (c.lookup now q).2 := by
  obtain ⟨hcap, hmin, hcase⟩ := lookup_cases c now q
  refine ⟨hc.wellFormed.lookup now q, hcap ▸ hc.capacity_eq, hmin ▸ hc.minTtl_eq,
    fun k e => ?_, ?_⟩
  · rw [lookup_find?, hc.find?_iff]
    simp [latestSet_snoc, setKey, CallEffect.evicted]
  · rw [lookup_keys]
    rcases hcase with ⟨e, hfind, hfst, -, -⟩ | ⟨hfind, hfst, -, -⟩
    · rw [if_pos (find?_isSome_iff.1 (by simp [hfind]))]
      exact pairwise_touch hc.wellFormed.nodup hc.recency List.filter_sublist (by simp)
        (by simp [hfst, touched])
    · rw [if_neg (find?_eq_none_iff.1 hfind)]
      exact pairwise_untouched hc.wellFormed.nodup hc.recency (by simp [hfst, touched])

theorem Tracks.store (hc : Tracks cap minTtl effs c) (h : c.store now q a = some c') :
    Tracks cap minTtl (effs ++ [.stored now q a (c.evictedBy c')]) c' := by
  obtain ⟨hcap, hmin, -⟩ := store_cases h
  refine ⟨hc.wellFormed.store h, hcap ▸ hc.capacity_eq, hmin ▸ hc.minTtl_eq, fun k e => ?_, ?_⟩
  · by_cases hqk : q = k
    · subst hqk
      rw [store_find?_self h, hc.minTtl_eq]
      simp [latestSet_snoc, setKey, eq_comm]
    · -- another key keeps its entry unless the set evicted it
      rw [store_find?_of_ne h hqk]
      simp only [latestSet_snoc, setKey, CallEffect.evicted, mem_evictedBy, stored.injEq, hqk,
        false_and, and_false, exists_const, false_or, ne_eq, Option.some.injEq,
        not_false_eq_true, true_and]
      by_cases hk' : k ∈ c'.keys
      · rw [if_pos hk', hc.find?_iff]
        simp [hk']
      · rw [if_neg hk']
        simp only [reduceCtorEq, false_iff, not_exists, not_and]
        rintro t a' ⟨hlatest, hkept⟩ -
        have := (hc.find?_iff k _).2 ⟨t, a', hlatest, rfl⟩
        exact hkept (find?_isSome_iff.1 (by simp [this])) hk'
  · have hnd := hc.wellFormed.nodup
    rcases store_keys h with ⟨-, hk⟩ | ⟨hq, -, hk⟩ | ⟨hq, -, hk⟩ <;> rw [hk]
    · exact pairwise_touch hnd hc.recency List.filter_sublist (by simp) rfl
    · exact pairwise_touch hnd hc.recency (List.Sublist.refl _) hq rfl
    · exact pairwise_touch hnd hc.recency (List.dropLast_sublist _)
        (fun hm => hq (List.mem_of_mem_dropLast hm)) rfl

theorem Tracks.call (hc : Tracks cap minTtl effs c) {x : CacheCall} {eff : CallEffect}
    (h : c.call x = some (eff, c')) : Tracks cap minTtl (effs ++ [eff]) c' := by
  rcases call_cases h with ⟨now, q, -, rfl, rfl⟩ | ⟨now, q, a, -, hs, rfl⟩
  · exact hc.lookup now q
  · exact hc.store hs

theorem tracks_replay {c₀ : AnswerCache} {calls : List CacheCall}
    (hnew : create? cap minTtl = some c₀) (hrun : c₀.replay calls = some (effs, s)) :
    Tracks cap minTtl effs s := by
  simpa using replay_induction (Tracks cap minTtl) (fun _ _ _ _ _ hP hx => hP.call hx)
    (tracks_create hnew) hrun

/-! ## What a lookup finds -/

theorem Tracks.lookup_found (hc : Tracks cap minTtl effs c) (now : Nat) (q : Query) (a : Answer)
    (stale : Bool) : (c.lookup now q).1 = (some a, stale) ↔
      ∃ tset, LatestSet effs q tset a ∧
        stale = decide (tset + a.effectiveTtl minTtl * 1000 ≤ now) := by
  obtain ⟨-, -, ⟨e, hfind, hfst, -⟩ | ⟨hfind, hfst, -⟩⟩ := lookup_cases c now q
  · rw [hfst]
    obtain ⟨t, a₀, hlatest, rfl⟩ := (hc.find?_iff q e).1 hfind
    constructor
    · intro h
      simp only [Prod.mk.injEq, Option.some.injEq] at h
      obtain ⟨rfl, rfl⟩ := h
      exact ⟨t, hlatest, rfl⟩
    · rintro ⟨tset, hl, rfl⟩
      have h := (hc.find?_iff q _).2 ⟨tset, a, hl, rfl⟩
      rw [hfind, Option.some.injEq, CacheEntry.mk.injEq] at h
      obtain ⟨rfl, h⟩ := h
      rw [h]
  · rw [hfst]
    simp only [Prod.mk.injEq, reduceCtorEq, false_and, false_iff, not_exists, not_and]
    intro tset hl _
    have h := (hc.find?_iff q _).2 ⟨tset, a, hl, rfl⟩
    rw [hfind] at h
    cases h

/-! ## What a set evicts -/

theorem Tracks.store_of_room (hc : Tracks cap minTtl effs c) (h : c.store now q a = some c')
    (hroom : q ∈ c.keys ∨ c.size < cap) :
    c.evictedBy c' = [] ∧ ∀ k, q ≠ k → c'.find? k = c.find? k := by
  have hsub : ∀ k ∈ c.keys, k ∈ c'.keys := by
    rcases store_keys h with ⟨-, hk⟩ | ⟨-, -, hk⟩ | ⟨hq, hle, -⟩
    · intro k hmem
      rw [hk]
      by_cases hkq : k = q
      · simp [hkq]
      · simp [hkq, hmem]
    · intro k hmem
      rw [hk]
      exact List.mem_cons_of_mem _ hmem
    · have := hc.capacity_eq
      rcases hroom with hin | hlt
      · exact absurd hin hq
      · omega
  refine ⟨List.filter_eq_nil_iff.2 fun k hk => by simpa using hsub k hk, fun k hqk => ?_⟩
  exact store_find?_of_kept h hqk (hsub k)

theorem Tracks.store_full (hc : Tracks cap minTtl effs c) (h : c.store now q a = some c')
    (hq : q ∉ c.keys) (hfull : c.size = cap) :
    ∃ v ∈ c.keys, c.evictedBy c' = [v] ∧ (∀ k ∈ c.keys, k ≠ v → TouchedAfter effs k v) ∧
      ∀ k, q ≠ k → v ≠ k → c'.find? k = c.find? k := by
  -- the keys of a full cache end with the least recently touched one
  obtain ⟨init, v, hsplit⟩ : ∃ init v, c.keys = init ++ [v] := by
    rcases List.eq_nil_or_concat c.keys with h0 | ⟨init, v, h1⟩
    · have hpos := hc.wellFormed.capacity_pos
      have hzero : c.size = 0 := by rw [← length_keys, h0]; rfl
      have := hc.capacity_eq
      omega
    · exact ⟨init, v, by simpa using h1⟩
  have hk : c'.keys = q :: init := by
    rcases store_keys h with ⟨hq', -⟩ | ⟨-, hlt, -⟩ | ⟨-, -, hk⟩
    · exact absurd hq' hq
    · have := hc.capacity_eq
      omega
    · rw [hk, hsplit, List.dropLast_concat]
  have hnd : (init ++ [v]).Nodup := hsplit ▸ hc.wellFormed.nodup
  have hv : v ∉ init := fun hv => List.disjoint_of_nodup_append hnd hv (List.mem_singleton_self v)
  have hvq : v ≠ q := fun hvq => hq (by rw [hsplit, hvq]; simp)
  refine ⟨v, by simp [hsplit], ?_, fun k hmem hkv => ?_, fun k hqk hvk => ?_⟩
  · have hinit : init.filter (· ∉ q :: init) = [] :=
      List.filter_eq_nil_iff.2 fun k hk => by simp [hk]
    rw [evictedBy, hsplit, hk, List.filter_append, hinit, List.nil_append]
    simp [hv, hvq]
  · have hrec := List.pairwise_append.1 (hsplit ▸ hc.recency)
    have hinit : k ∈ init := by
      rw [hsplit] at hmem
      simpa [hkv] using hmem
    exact hrec.2.2 k hinit v (List.mem_singleton_self v)
  · refine store_find?_of_kept h hqk fun hmem => ?_
    rw [hsplit] at hmem
    rw [hk]
    exact List.mem_cons_of_mem q (by simpa [Ne.symm hvk] using hmem)

end AnswerCache

/-! ## The laws -/

open CallEffect

/-- What a lookup does on a cache reached by the calls that recorded `effs`: it finds the answer
of the latest set of its key when no call evicted the key since, stale exactly when the instant
has reached the set's instant plus the answer's lifetime; otherwise it finds nothing and leaves
the entries as they are. No lookup removes an entry or changes one. -/
def LookupLaw (minTtl : Nat) (effs : List CallEffect) (c : AnswerCache) : Prop :=
  ∀ now q,
    (∀ a stale, (c.lookup now q).1 = (some a, stale) ↔
      ∃ tset, LatestSet effs q tset a ∧
        stale = decide (tset + a.effectiveTtl minTtl * 1000 ≤ now)) ∧
    ((c.lookup now q).1.1 = none →
      (c.lookup now q).1.2 = false ∧ (c.lookup now q).2.entries = c.entries) ∧
    (c.lookup now q).2.keys.Perm c.keys ∧ ∀ k, (c.lookup now q).2.find? k = c.find? k

/-- What a set does on a cache reached by the calls that recorded `effs`: its key then holds the
new entry, whole; on a key present, or with room left, it evicts nothing and keeps every other
key's entry; on a new key when the cache is full it evicts exactly one key, the one whose latest
touch is the oldest, and keeps every other key's entry. -/
def SetLaw (cap minTtl : Nat) (effs : List CallEffect) (c : AnswerCache) : Prop :=
  ∀ now q a c', c.store now q a = some c' →
    c'.find? q = some ⟨a, now + a.effectiveTtl minTtl * 1000⟩ ∧
    (q ∈ c.keys ∨ c.size < cap →
      c.evictedBy c' = [] ∧ ∀ k, q ≠ k → c'.find? k = c.find? k) ∧
    (q ∉ c.keys → c.size = cap → ∃ v ∈ c.keys, c.evictedBy c' = [v] ∧
      (∀ k ∈ c.keys, k ≠ v → TouchedAfter effs k v) ∧
      ∀ k, q ≠ k → v ≠ k → c'.find? k = c.find? k)

/-- The cache refines a bounded LRU map with lazy expiry: after any run of calls from a new
cache, each made atomically at its own instant, the cache holds at most its capacity and no key
twice, and lookups and sets obey their laws. -/
theorem lru_with_lazy_expiry {cap minTtl : Nat} {c₀ s : AnswerCache} (calls : List CacheCall)
    {effs : List CallEffect} (hnew : AnswerCache.create? cap minTtl = some c₀)
    (hrun : c₀.replay calls = some (effs, s)) :
    (s.size ≤ cap ∧ s.keys.Nodup) ∧ LookupLaw minTtl effs s ∧ SetLaw cap minTtl effs s := by
  have hs := AnswerCache.tracks_replay hnew hrun
  refine ⟨⟨hs.capacity_eq ▸ hs.wellFormed.size_le, hs.wellFormed.nodup⟩, ?_, ?_⟩
  · intro now q
    refine ⟨hs.lookup_found now q, fun hnone => ?_, hs.wellFormed.lookup_keys_perm now q,
      AnswerCache.lookup_find? s now q⟩
    obtain ⟨-, -, ⟨e, -, hfst, -⟩ | ⟨-, hfst, he, -⟩⟩ := AnswerCache.lookup_cases s now q
    · simp [hfst] at hnone
    · exact ⟨by rw [hfst], he⟩
  · intro now q a c' h
    refine ⟨hs.minTtl_eq ▸ AnswerCache.store_find?_self h, hs.store_of_room h,
      hs.store_full h⟩

/-- Two sets on different keys into a cache of one entry: the second evicts the first. -/
theorem lru_with_lazy_expiry_one_entry :
    AnswerCache.create? 1 0 = some { capacity := 1, minTtl := 0 } ∧
    ({ capacity := 1, minTtl := 0 } : AnswerCache).replay
        [.set 0 { domain := "a.example", type := RecordType.a } { status := Rcode.noError },
         .set 5 { domain := "b.example", type := RecordType.a } { status := Rcode.noError }] =
      some ([.stored 0 { domain := "a.example", type := RecordType.a }
                { status := Rcode.noError } [],
             .stored 5 { domain := "b.example", type := RecordType.a }
                { status := Rcode.noError } [{ domain := "a.example", type := RecordType.a }]],
        { capacity := 1, minTtl := 0,
          entries := [({ domain := "b.example", type := RecordType.a },
            ⟨{ status := Rcode.noError }, 5⟩)],
          counters := { insertions := 2, evictions := 1 } }) ∧
    let effs : List CallEffect :=
      [.stored 0 { domain := "a.example", type := RecordType.a } { status := Rcode.noError } [],
       .stored 5 { domain := "b.example", type := RecordType.a } { status := Rcode.noError }
         [{ domain := "a.example", type := RecordType.a }]]
    let s : AnswerCache :=
      { capacity := 1, minTtl := 0,
        entries := [({ domain := "b.example", type := RecordType.a },
          ⟨{ status := Rcode.noError }, 5⟩)],
        counters := { insertions := 2, evictions := 1 } }
    (s.size ≤ 1 ∧ s.keys.Nodup) ∧ LookupLaw 0 effs s ∧ SetLaw 1 0 effs s :=
  ⟨rfl, rfl, lru_with_lazy_expiry
    [.set 0 { domain := "a.example", type := RecordType.a } { status := Rcode.noError },
     .set 5 { domain := "b.example", type := RecordType.a } { status := Rcode.noError }] rfl rfl⟩

end SplitDns
