import SplitDns.Proofs.CacheCalls
import SplitDns.Proofs.Arbitration
import SplitDns.Forwarder
/-!
# Handling a query against the cache

What `handleQuery` does is decided by what the lookup found, and this file states it for each
of the three cases (`handleQuery_against_cache`), for every query and every cache:

* a fresh hit returns the cached answer from the cache, asks no resolver, changes the cache only
  as the lookup did, and reports the query once;
* a stale hit returns the cached answer from the cache as well, whatever the resolvers do, then
  refreshes: one resolution, and a store exactly when its answer is a success and the store can
  be made; otherwise the entry is left as the lookup found it, answer and expiry alike;
* a miss resolves once, returns the resolution's answer and source unchanged, and stores the
  answer exactly when it is a success, reporting the store before the query.

A handling gives no result exactly when a miss resolves to a success whose expiry would fall
past the clock's end: the store cannot be made and the handling stops there. At a fixed clock a
large enough floor does it, for an answer with no records (`handleQuery_stops_at_clock_end`).

`handleQuery_fresh`, `handleQuery_stale` and `handleQuery_miss` give the handling once per
case; `storeAnswer_cases` says what storing a resolution does.
-/

namespace SplitDns

section
variable (now : Nat) (q : Query) (a : Answer) (src : Source) (c : AnswerCache)

/-- Storing a resolution: a success goes to the cache and is reported, when the store can be
made; anything else leaves the cache alone and reports nothing. -/
theorem storeAnswer_cases :
    (a.isSuccess = true ∧ ∃ c', c.store now q a = some c' ∧
        storeAnswer now q a src c = some (c', [.cacheUpdated q a.records.length src])) ∨
      (a.isSuccess = true ∧ c.store now q a = none ∧ storeAnswer now q a src c = none) ∨
      (a.isSuccess = false ∧ storeAnswer now q a src c = some (c, [])) := by
  unfold storeAnswer
  cases hs : a.isSuccess with
  | false => exact .inr (.inr ⟨rfl, rfl⟩)
  | true =>
    cases hst : c.store now q a with
    | none => exact .inr (.inl ⟨rfl, rfl, rfl⟩)
    | some c' => exact .inl ⟨rfl, c', rfl, rfl⟩

theorem storeAnswer_getD_cases :
    (a.isSuccess = true ∧ c.store now q a = some ((storeAnswer now q a src c).getD (c, [])).1 ∧
        ((storeAnswer now q a src c).getD (c, [])).2 = [.cacheUpdated q a.records.length src]) ∨
      ((a.isSuccess = false ∨ c.store now q a = none) ∧
        ((storeAnswer now q a src c).getD (c, [])).1 = c ∧
        ((storeAnswer now q a src c).getD (c, [])).2 = []) := by
  rcases storeAnswer_cases now q a src c with ⟨hs, c', hst, h⟩ | ⟨-, hst, h⟩ | ⟨hs, h⟩
  · rw [h]
    exact .inl ⟨hs, hst, rfl⟩
  · rw [h]
    exact .inr ⟨.inr hst, rfl, rfl⟩
  · rw [h]
    exact .inr ⟨.inl hs, rfl, rfl⟩

end

section
variable (u : Upstreams) (now : Nat) (q : Query) (c : AnswerCache)

/-- A fresh hit: the cached answer, no resolver asked, the query reported. -/
theorem handleQuery_fresh {a : Answer} (h : (c.lookup now q).1 = (some a, false)) :
    handleQuery u now q c =
      some ({ answer := a, source := .cache, events := [.handled q a.status .cache],
              fastCalls := 0, cleanCalls := 0, classifierCalls := 0 }, (c.lookup now q).2) := by
  have hl : c.lookup now q = ((some a, false), (c.lookup now q).2) := Prod.ext h rfl
  unfold handleQuery
  rw [hl]
  rfl

/-- A stale hit: the cached answer, then a refresh by one resolution. -/
theorem handleQuery_stale {a : Answer} (h : (c.lookup now q).1 = (some a, true)) :
    let r := resolve u.fast u.clean u.isDomestic q
    let refresh := (storeAnswer now q r.answer r.source (c.lookup now q).2).getD
      ((c.lookup now q).2, [])
    handleQuery u now q c =
      some ({ answer := a, source := .cache, events := .handled q a.status .cache :: refresh.2,
              fastCalls := 1, cleanCalls := if r.cleanAsked then 1 else 0,
              classifierCalls := r.classifierCalls }, refresh.1) := by
  have hl : c.lookup now q = ((some a, true), (c.lookup now q).2) := Prod.ext h rfl
  unfold handleQuery
  rw [hl]
  simp only [resolve_fastCalls, resolve_cleanCalls]
  rfl

/-- A miss: one resolution, its answer stored if it is a success, and the query reported after
the store. -/
theorem handleQuery_miss (h : (c.lookup now q).1.1 = none) :
    let r := resolve u.fast u.clean u.isDomestic q
    handleQuery u now q c =
      (storeAnswer now q r.answer r.source (c.lookup now q).2).map fun stored =>
        ({ answer := r.answer, source := r.source,
           events := stored.2 ++ [.handled q r.answer.status r.source], fastCalls := 1,
           cleanCalls := if r.cleanAsked then 1 else 0,
           classifierCalls := r.classifierCalls }, stored.1) := by
  unfold handleQuery
  cases hl : c.lookup now q with
  | mk found c₁ =>
    obtain ⟨a?, stale⟩ := found
    rw [hl] at h
    cases h
    dsimp only
    rw [resolve_fastCalls, resolve_cleanCalls]
    cases storeAnswer now q (resolve u.fast u.clean u.isDomestic q).answer
      (resolve u.fast u.clean u.isDomestic q).source c₁ <;> rfl

theorem handleQuery_miss_eq_none (h : (c.lookup now q).1.1 = none) :
    handleQuery u now q c = none ↔
      (resolve u.fast u.clean u.isDomestic q).answer.isSuccess = true ∧
        (c.lookup now q).2.store now q (resolve u.fast u.clean u.isDomestic q).answer = none := by
  rw [handleQuery_miss u now q c h, Option.map_eq_none_iff]
  rcases storeAnswer_cases now q (resolve u.fast u.clean u.isDomestic q).answer
      (resolve u.fast u.clean u.isDomestic q).source (c.lookup now q).2 with
    ⟨hs, c', hst, hsa⟩ | ⟨hs, hst, hsa⟩ | ⟨hs, hsa⟩ <;> simp_all

end

/-- A handling against the cache it finds, by what the lookup gives: a fresh hit, a stale hit
with its refresh, or a miss with its resolution. -/
theorem handleQuery_against_cache (u : Upstreams) (now : Nat) (q : Query) (c : AnswerCache) :
    let r := resolve u.fast u.clean u.isDomestic q
    let c₁ := (c.lookup now q).2
    (∀ a, (c.lookup now q).1 = (some a, false) →
      handleQuery u now q c =
        some ({ answer := a, source := .cache, events := [.handled q a.status .cache],
                fastCalls := 0, cleanCalls := 0, classifierCalls := 0 }, c₁)) ∧
    (∀ a, (c.lookup now q).1 = (some a, true) →
      ∃ c₂ refreshed, handleQuery u now q c =
        some ({ answer := a, source := .cache, events := .handled q a.status .cache :: refreshed,
                fastCalls := 1, cleanCalls := if r.cleanAsked then 1 else 0,
                classifierCalls := r.classifierCalls }, c₂) ∧
        ((r.answer.isSuccess = true ∧ c₁.store now q r.answer = some c₂ ∧
            c₂.find? q = some ⟨r.answer, now + r.answer.effectiveTtl c.minTtl * 1000⟩ ∧
            refreshed = [.cacheUpdated q r.answer.records.length r.source]) ∨
          ((r.answer.isSuccess = false ∨ c₁.store now q r.answer = none) ∧
            c₂ = c₁ ∧ c₂.find? q = c.find? q ∧ refreshed = []))) ∧
    ((c.lookup now q).1.1 = none →
      (handleQuery u now q c = none ↔
        r.answer.isSuccess = true ∧ c₁.store now q r.answer = none) ∧
      ∀ h c₂, handleQuery u now q c = some (h, c₂) →
        h.answer = r.answer ∧ h.source = r.source ∧ h.fastCalls = 1 ∧
        h.cleanCalls = (if r.cleanAsked then 1 else 0) ∧
        h.classifierCalls = r.classifierCalls ∧
        ((r.answer.isSuccess = true ∧ c₁.store now q r.answer = some c₂ ∧
            h.events = [.cacheUpdated q r.answer.records.length r.source,
              .handled q r.answer.status r.source]) ∨
          (r.answer.isSuccess = false ∧ c₂ = c₁ ∧
            h.events = [.handled q r.answer.status r.source]))) := by
  intro r c₁
  have hmin : c₁.minTtl = c.minTtl := (AnswerCache.lookup_cases c now q).2.1
  refine ⟨fun a h => handleQuery_fresh u now q c h, fun a h => ?_, fun h => ?_⟩
  · -- a stale hit: the refresh either stores a success or leaves the lookup's cache
    refine ⟨_, _, handleQuery_stale u now q c h, ?_⟩
    rcases storeAnswer_getD_cases now q r.answer r.source c₁ with
      ⟨hs, hst, hev⟩ | ⟨hfail, hc, hev⟩
    · refine .inl ⟨hs, hst, ?_, hev⟩
      exact (AnswerCache.store_find?_self hst).trans (by rw [hmin])
    · refine .inr ⟨hfail, hc, ?_, hev⟩
      exact (congrArg (AnswerCache.find? · q) hc).trans (AnswerCache.lookup_find? c now q q)
  · -- a miss: the handling is the resolution, stored when it is a success
    have hmiss : handleQuery u now q c = (storeAnswer now q r.answer r.source c₁).map _ :=
      handleQuery_miss u now q c h
    refine ⟨handleQuery_miss_eq_none u now q c h, fun hd c₂ hrun => ?_⟩
    rcases storeAnswer_cases now q r.answer r.source c₁ with
      ⟨hs, c', hst, hsa⟩ | ⟨hs, hst, hsa⟩ | ⟨hs, hsa⟩ <;> rw [hmiss, hsa] at hrun
    · obtain ⟨rfl, rfl⟩ := Prod.mk.inj (Option.some.inj hrun)
      exact ⟨rfl, rfl, rfl, rfl, rfl, .inl ⟨hs, hst, rfl⟩⟩
    · cases hrun
    · obtain ⟨rfl, rfl⟩ := Prod.mk.inj (Option.some.inj hrun)
      exact ⟨rfl, rfl, rfl, rfl, rfl, .inr ⟨hs, rfl, rfl⟩⟩

/-- A miss on a cache whose floor is the largest 64-bit number, resolved to a success with no
records: its expiry falls past the clock's end, so the store cannot be made and the handling
gives no answer. -/
theorem handleQuery_stops_at_clock_end :
    handleQuery
      { fast := fun _ => .ok { status := Rcode.noError },
        clean := fun _ => .error (.transportTimeout "clean"),
        isDomestic := fun _ => false }
      0 { domain := "x.", type := RecordType.txt }
      { capacity := 5000, minTtl := 18446744073709551615 } = none := by
  have hclock : clockAfter 0 (18446744073709551615 * 1000) = none := by
    unfold clockAfter clockEnd
    decide
  have hstore : AnswerCache.store 0 { domain := "x.", type := RecordType.txt }
      { status := Rcode.noError }
      { capacity := 5000, minTtl := 18446744073709551615, counters := { misses := 1 } } = none := by
    simp only [AnswerCache.store, Answer.effectiveTtl, Answer.minTtl?, List.foldl_nil, hclock]
    rfl
  exact (handleQuery_miss_eq_none _ _ _ _ rfl).2 ⟨rfl, hstore⟩

end SplitDns
