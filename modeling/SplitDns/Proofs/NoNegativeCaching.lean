import SplitDns.Proofs.CacheCalls
import SplitDns.Proofs.Arbitration
import SplitDns.Forwarder
/-!
# No failure is ever cached

The forwarder handles many queries at once, and a stale hit leaves a refresh running apart. A
handling looks its query up under the cache's lock; on a miss it waits for the resolvers and
then stores what they gave, if it is a success; a refresh resolves and stores the same way. The
resolvers are reached outside the lock, so each handling and each refresh touches the cache in
two separate atomic steps at most, and other steps may come between them. `Flight` is the
forwarder with the handlings waiting for their resolution and the refreshes not yet run; a
`Move` is one atomic step, with the instant it read and, for a resolution, whatever the two
resolvers and the classifier do on that occasion.

Main statement (`cache_holds_only_resolved_successes`): over any interleaving of moves from an
empty cache, every entry under a key holds a successful answer that a resolution of that very
key gave, and every answer a handling returns from the cache or from the fast resolver is a
success, so a failure is only ever answered as the clean resolver's. The sequential handler
`handleQuery` is one such interleaving (`handleQuery_schedule`).
-/

namespace SplitDns

/-! ## Resolution and storing -/

theorem resolve_source_cases (fast clean : Resolver) (isDomestic : IpAddr → Bool) (q : Query) :
    ((resolve fast clean isDomestic q).source = .fast ∧
        (resolve fast clean isDomestic q).answer.isSuccess = true) ∨
      (resolve fast clean isDomestic q).source = .clean := by
  by_cases ht : Trusted isDomestic q (fast q)
  · cases hf : fast q with
    | error e =>
      rw [hf] at ht
      exact ht.elim
    | ok a =>
      rw [hf] at ht
      rw [resolve_of_trusted fast clean isDomestic q hf ht]
      exact .inl ⟨rfl, ht.1⟩
  · exact .inr (resolve_of_not_trusted fast clean isDomestic q ht).2.1

theorem resolve_isSuccess_of_ne_clean {fast clean : Resolver} {isDomestic : IpAddr → Bool}
    {q : Query} (h : (resolve fast clean isDomestic q).source ≠ .clean) :
    (resolve fast clean isDomestic q).answer.isSuccess = true := by
  rcases resolve_source_cases fast clean isDomestic q with ⟨-, hs⟩ | hc
  · exact hs
  · exact absurd hc h

theorem AnswerCache.mem_of_store {c c' : AnswerCache} {now : Nat} {q : Query} {a : Answer}
    (h : c.store now q a = some c') {p : Query × CacheEntry} (hp : p ∈ c'.entries) :
    p ∈ c.entries ∨ (p.1 = q ∧ p.2.answer = a) := by
  obtain ⟨-, -, ⟨-, he, -⟩ | ⟨-, -, he, -⟩ | ⟨-, -, he, -⟩⟩ := AnswerCache.store_cases h <;>
    rw [he] at hp
  · rcases List.mem_cons.1 hp with rfl | hp
    · exact .inr ⟨rfl, rfl⟩
    · exact .inl (List.mem_of_mem_filter hp)
  · rcases List.mem_cons.1 hp with rfl | hp
    · exact .inr ⟨rfl, rfl⟩
    · exact .inl hp
  · rcases List.mem_cons.1 hp with rfl | hp
    · exact .inr ⟨rfl, rfl⟩
    · exact .inl (List.mem_of_mem_dropLast hp)

theorem mem_of_storeAnswer {c c' : AnswerCache} {now : Nat} {q : Query} {a : Answer}
    {src : Source} {ev : List Event} (h : storeAnswer now q a src c = some (c', ev))
    {p : Query × CacheEntry} (hp : p ∈ c'.entries) :
    p ∈ c.entries ∨ (p.1 = q ∧ p.2.answer = a ∧ a.isSuccess = true) := by
  unfold storeAnswer at h
  split at h
  · rename_i hs
    obtain ⟨c'', hst, he⟩ := Option.map_eq_some_iff.1 h
    cases he
    rcases AnswerCache.mem_of_store hst hp with hp | ⟨hq, ha⟩
    · exact .inl hp
    · exact .inr ⟨hq, ha, hs⟩
  · cases h
    exact .inl hp

theorem AnswerCache.mem_of_lookup {c : AnswerCache} {now : Nat} {q : Query}
    {p : Query × CacheEntry} (hp : p ∈ (c.lookup now q).2.entries) : p ∈ c.entries := by
  obtain ⟨-, -, ⟨e, hfind, -, he, -⟩ | ⟨-, -, he, -⟩⟩ := AnswerCache.lookup_cases c now q <;>
    rw [he] at hp
  · rcases List.mem_cons.1 hp with rfl | hp
    · exact AnswerCache.mem_of_find?_eq_some hfind
    · exact List.mem_of_mem_filter hp
  · exact hp

theorem AnswerCache.lookup_found_mem {c : AnswerCache} {now : Nat} {q : Query} {a : Answer}
    (h : (c.lookup now q).1.1 = some a) : ∃ e, (q, e) ∈ c.entries ∧ e.answer = a := by
  obtain ⟨-, -, ⟨e, hfind, hfst, -⟩ | ⟨-, hfst, -⟩⟩ := AnswerCache.lookup_cases c now q <;>
    rw [hfst] at h
  · exact ⟨e, AnswerCache.mem_of_find?_eq_some hfind, Option.some.inj h⟩
  · cases h

/-! ## The forwarder with work in flight -/

/-- One atomic step of the forwarder, at the instant it read. A resolution carries what the
resolvers and the classifier do on that occasion. -/
inductive Move where
  /-- A query arrives and is looked up. -/
  | arrive (now : Nat) (q : Query)
  /-- A handling that missed gets its resolution and stores it. -/
  | settle (now : Nat) (q : Query) (u : Upstreams)
  /-- A refresh spawned by a stale hit resolves its query and stores the answer. -/
  | refresh (now : Nat) (q : Query) (u : Upstreams)

/-- The query a move resolves and what the resolution gave, if it resolves one. -/
def Move.resolution : Move → Option (Query × Resolution)
  | .arrive .. => none
  | .settle _ q u | .refresh _ q u => some (q, resolve u.fast u.clean u.isDomestic q)

/-- The forwarder: its cache, the handlings waiting for a resolution, and the refreshes not yet
run, each by its query. -/
structure Flight where
  cache : AnswerCache
  waiting : List Query := []
  refreshing : List Query := []

namespace Flight

/-- Makes one move: the answer and source a handling returns, if the move completes one, and
the forwarder after it; none when the move has nothing to act on, or when a handling's store
would go stale past the clock's end. A refresh whose store cannot be made ends without storing. -/
def step (s : Flight) : Move → Option (Option (Answer × Source) × Flight)
  | .arrive now q =>
    match s.cache.lookup now q with
    | ((some a, stale), c) =>
      some (some (a, .cache),
        { s with cache := c, refreshing := if stale then q :: s.refreshing else s.refreshing })
    | ((none, _), c) => some (none, { s with cache := c, waiting := q :: s.waiting })
  | .settle now q u =>
    if q ∈ s.waiting then
      let r := resolve u.fast u.clean u.isDomestic q
      (storeAnswer now q r.answer r.source s.cache).map fun stored =>
        (some (r.answer, r.source), { s with cache := stored.1, waiting := s.waiting.erase q })
    else none
  | .refresh now q u =>
    if q ∈ s.refreshing then
      let r := resolve u.fast u.clean u.isDomestic q
      let c := ((storeAnswer now q r.answer r.source s.cache).map (·.1)).getD s.cache
      some (none, { s with cache := c, refreshing := s.refreshing.erase q })
    else none

/-- Makes moves in order: the answers the handlings returned, and the forwarder after them. -/
def run (s : Flight) : List Move → Option (List (Answer × Source) × Flight)
  | [] => some ([], s)
  | m :: ms => do
    let (r, s') ← s.step m
    let (rs, s'') ← s'.run ms
    pure (r.toList ++ rs, s'')

theorem run_cons {s t : Flight} {m : Move} {ms : List Move} {rs : List (Answer × Source)}
    (h : s.run (m :: ms) = some (rs, t)) :
    ∃ r s' rs', s.step m = some (r, s') ∧ s'.run ms = some (rs', t) ∧ rs = r.toList ++ rs' := by
  simp only [run, Option.bind_eq_bind] at h
  cases hm : s.step m with
  | none => simp [hm] at h
  | some x =>
    obtain ⟨r, s'⟩ := x
    cases hr : s'.run ms with
    | none => simp [hm, hr] at h
    | some y =>
      obtain ⟨rs', t'⟩ := y
      simp only [hm, hr, Option.bind_some, Option.pure_def, Option.some.injEq, Prod.mk.injEq] at h
      obtain ⟨rfl, rfl⟩ := h
      exact ⟨r, s', rs', rfl, hr, rfl⟩

theorem run_induction (P : List Move → List (Answer × Source) → Flight → Prop)
    (step : ∀ ms rs s m r s', P ms rs s → s.step m = some (r, s') →
      P (ms ++ [m]) (rs ++ r.toList) s')
    {moves : List Move} :
    ∀ {ms rs s replies t}, P ms rs s → s.run moves = some (replies, t) →
      P (ms ++ moves) (rs ++ replies) t := by
  induction moves with
  | nil =>
    intro ms rs s replies t hP h
    simp only [run, Option.some.injEq, Prod.mk.injEq] at h
    obtain ⟨rfl, rfl⟩ := h
    simpa using hP
  | cons m moves ih =>
    intro ms rs s replies t hP h
    obtain ⟨r, s', rs', hm, hrest, rfl⟩ := run_cons h
    simpa using ih (step ms rs s m r s' hP hm) hrest

theorem step_cases {s s' : Flight} {m : Move} {r : Option (Answer × Source)}
    (h : s.step m = some (r, s')) :
    (∃ now q, m = .arrive now q ∧ s'.cache = (s.cache.lookup now q).2 ∧
        r = (s.cache.lookup now q).1.1.map (·, .cache)) ∨
      (∃ now q u ev, m = .settle now q u ∧
        storeAnswer now q (resolve u.fast u.clean u.isDomestic q).answer
          (resolve u.fast u.clean u.isDomestic q).source s.cache = some (s'.cache, ev) ∧
        r = some ((resolve u.fast u.clean u.isDomestic q).answer,
          (resolve u.fast u.clean u.isDomestic q).source)) ∨
      (∃ now q u, m = .refresh now q u ∧ r = none ∧
        (s'.cache = s.cache ∨ ∃ ev, storeAnswer now q (resolve u.fast u.clean u.isDomestic q).answer
          (resolve u.fast u.clean u.isDomestic q).source s.cache = some (s'.cache, ev))) := by
  cases m with
  | arrive now q =>
    refine .inl ⟨now, q, rfl, ?_⟩
    simp only [step] at h
    cases hl : s.cache.lookup now q with
    | mk found c =>
      obtain ⟨a?, stale⟩ := found
      cases a? with
      | none =>
        simp only [hl, Option.some.injEq, Prod.mk.injEq] at h
        obtain ⟨rfl, rfl⟩ := h
        exact ⟨rfl, rfl⟩
      | some a =>
        simp only [hl, Option.some.injEq, Prod.mk.injEq] at h
        obtain ⟨rfl, rfl⟩ := h
        exact ⟨rfl, rfl⟩
  | settle now q u =>
    refine .inr (.inl ?_)
    simp only [step] at h
    split at h
    · obtain ⟨stored, hst, he⟩ := Option.map_eq_some_iff.1 h
      simp only [Prod.mk.injEq] at he
      obtain ⟨rfl, rfl⟩ := he
      exact ⟨now, q, u, stored.2, rfl, hst, rfl⟩
    · cases h
  | refresh now q u =>
    refine .inr (.inr ⟨now, q, u, rfl, ?_⟩)
    simp only [step] at h
    split at h
    · simp only [Option.some.injEq, Prod.mk.injEq] at h
      obtain ⟨rfl, rfl⟩ := h
      refine ⟨rfl, ?_⟩
      cases hst : storeAnswer now q (resolve u.fast u.clean u.isDomestic q).answer
          (resolve u.fast u.clean u.isDomestic q).source s.cache with
      | none => exact .inl (by simp)
      | some stored => exact .inr ⟨stored.2, by simp⟩
    · cases h

/-! ## The invariant -/

/-- Every entry holds a successful answer that a resolution of its own key, among `moves`,
gave. -/
def HoldsResolved (moves : List Move) (c : AnswerCache) : Prop :=
  ∀ q e, (q, e) ∈ c.entries → e.answer.isSuccess = true ∧
    ∃ m ∈ moves, ∃ r, m.resolution = some (q, r) ∧ r.answer = e.answer

/-- Every answer returned from the cache or the fast resolver is a success. -/
def OnlyCleanFails (replies : List (Answer × Source)) : Prop :=
  ∀ x ∈ replies, x.2 ≠ .clean → x.1.isSuccess = true

theorem HoldsResolved.mono {ms ms' : List Move} {c : AnswerCache} (h : HoldsResolved ms c)
    (hsub : ∀ m ∈ ms, m ∈ ms') : HoldsResolved ms' c := by
  intro q e he
  obtain ⟨hs, m, hm, r, hr, ha⟩ := h q e he
  exact ⟨hs, m, hsub m hm, r, hr, ha⟩

theorem HoldsResolved.storeAnswer {ms : List Move} {c c' : AnswerCache} {m : Move} {now : Nat}
    {q : Query} {r : Resolution} {ev : List Event} (h : HoldsResolved ms c)
    (hm : m.resolution = some (q, r))
    (hst : SplitDns.storeAnswer now q r.answer r.source c = some (c', ev)) :
    HoldsResolved (ms ++ [m]) c' := by
  intro k e he
  rcases mem_of_storeAnswer hst he with he | ⟨hk, ha, hs⟩
  · exact (h.mono fun m hm => List.mem_append_left _ hm) k e he
  · refine ⟨ha ▸ hs, m, by simp, r, ?_, ha.symm⟩
    simp only at hk
    rw [hk, hm]

theorem step_holdsResolved {ms : List Move} {rs : List (Answer × Source)} {s s' : Flight}
    {m : Move} {r : Option (Answer × Source)}
    (h : HoldsResolved ms s.cache ∧ OnlyCleanFails rs) (hstep : s.step m = some (r, s')) :
    HoldsResolved (ms ++ [m]) s'.cache ∧ OnlyCleanFails (rs ++ r.toList) := by
  obtain ⟨hc, hr⟩ := h
  have hmono := hc.mono fun m' hm => List.mem_append_left [m] hm
  rcases step_cases hstep with ⟨now, q, -, hcache, rfl⟩ | ⟨now, q, u, ev, rfl, hst, rfl⟩ |
      ⟨now, q, u, rfl, rfl, hcache | ⟨ev, hst⟩⟩
  · -- a lookup keeps the entries, and answers one of them
    refine ⟨fun k e he => hmono k e (AnswerCache.mem_of_lookup (hcache ▸ he)), ?_⟩
    intro x hx hsrc
    rcases List.mem_append.1 hx with hx | hx
    · exact hr x hx hsrc
    · cases hfound : (s.cache.lookup now q).1.1 with
      | none => simp [hfound] at hx
      | some a =>
        simp only [hfound, Option.map_some, Option.toList_some, List.mem_singleton] at hx
        subst hx
        obtain ⟨e, he, rfl⟩ := AnswerCache.lookup_found_mem hfound
        exact (hc q e he).1
  · -- a handling that missed stores and returns what the resolvers gave
    refine ⟨hc.storeAnswer rfl hst, ?_⟩
    intro x hx hsrc
    rcases List.mem_append.1 hx with hx | hx
    · exact hr x hx hsrc
    · simp only [Option.toList_some, List.mem_singleton] at hx
      subst hx
      exact resolve_isSuccess_of_ne_clean hsrc
  · exact ⟨hcache ▸ hmono, by simpa using hr⟩
  · exact ⟨hc.storeAnswer rfl hst, by simpa using hr⟩

end Flight

/-- No failure is ever cached, and none answered but the clean resolver's: over any
interleaving of handlings and refreshes from an empty cache, whatever the resolvers and the
classifier do at each resolution, every entry under a key holds a successful answer that a
resolution of that key gave, and every answer returned from the cache or from the fast resolver
is a success. -/
theorem cache_holds_only_resolved_successes {cap minTtl : Nat} {c₀ : AnswerCache}
    (moves : List Move) {replies : List (Answer × Source)} {s : Flight}
    (hnew : AnswerCache.create? cap minTtl = some c₀)
    (hrun : Flight.run { cache := c₀ } moves = some (replies, s)) :
    (∀ q e, (q, e) ∈ s.cache.entries → e.answer.isSuccess = true ∧
      ∃ m ∈ moves, ∃ r, m.resolution = some (q, r) ∧ r.answer = e.answer) ∧
    ∀ x ∈ replies, x.2 ≠ .clean → x.1.isSuccess = true := by
  obtain ⟨-, -, -, hempty, -⟩ := AnswerCache.wellFormed_create hnew
  have h₀ : Flight.HoldsResolved [] c₀ ∧ Flight.OnlyCleanFails [] := by
    refine ⟨fun q e he => ?_, fun x hx => ?_⟩
    · rw [hempty] at he
      cases he
    · cases hx
  have h := Flight.run_induction (fun ms rs t => Flight.HoldsResolved ms t.cache ∧
      Flight.OnlyCleanFails rs) (fun _ _ _ _ _ _ hP hm => Flight.step_holdsResolved hP hm) h₀ hrun
  simp only [List.nil_append] at h
  exact h

/-- A miss on a text query that the fast resolver answers: its answer is returned and cached. -/
theorem cache_holds_only_resolved_successes_fast_miss :
    AnswerCache.create? 1 0 = some { capacity := 1, minTtl := 0 } ∧
    Flight.run { cache := { capacity := 1, minTtl := 0 } }
        [.arrive 0 { domain := "a.example", type := RecordType.txt },
         .settle 0 { domain := "a.example", type := RecordType.txt }
           { fast := fun _ => .ok { status := Rcode.noError },
             clean := fun _ => .ok { status := Rcode.servFail }, isDomestic := fun _ => false }] =
      some ([({ status := Rcode.noError }, .fast)],
        { cache :=
            { capacity := 1, minTtl := 0,
              entries := [({ domain := "a.example", type := RecordType.txt },
                ⟨{ status := Rcode.noError }, 0⟩)],
              counters := { misses := 1, insertions := 1 } } }) ∧
    let moves : List Move :=
      [.arrive 0 { domain := "a.example", type := RecordType.txt },
       .settle 0 { domain := "a.example", type := RecordType.txt }
         { fast := fun _ => .ok { status := Rcode.noError },
           clean := fun _ => .ok { status := Rcode.servFail }, isDomestic := fun _ => false }]
    let s : Flight :=
      { cache :=
          { capacity := 1, minTtl := 0,
            entries := [({ domain := "a.example", type := RecordType.txt },
              ⟨{ status := Rcode.noError }, 0⟩)],
            counters := { misses := 1, insertions := 1 } } }
    (∀ q e, (q, e) ∈ s.cache.entries → e.answer.isSuccess = true ∧
      ∃ m ∈ moves, ∃ r, m.resolution = some (q, r) ∧ r.answer = e.answer) ∧
    ∀ x ∈ [(({ status := Rcode.noError } : Answer), Source.fast)], x.2 ≠ .clean →
      x.1.isSuccess = true :=
  ⟨rfl, rfl, @cache_holds_only_resolved_successes 1 0 { capacity := 1, minTtl := 0 }
    [.arrive 0 { domain := "a.example", type := RecordType.txt },
     .settle 0 { domain := "a.example", type := RecordType.txt }
       { fast := fun _ => .ok { status := Rcode.noError },
         clean := fun _ => .ok { status := Rcode.servFail }, isDomestic := fun _ => false }]
    _ _ rfl rfl⟩

/-- The sequential handler is one interleaving: its lookup, then at once the resolution it
needs, the refresh after a stale hit or the settling of a miss. -/
theorem handleQuery_schedule {u : Upstreams} {now : Nat} {q : Query} {c c' : AnswerCache}
    {hd : Handled} (h : handleQuery u now q c = some (hd, c')) :
    ∃ moves, Flight.run { cache := c } moves = some ([(hd.answer, hd.source)], { cache := c' }) := by
  unfold handleQuery at h
  cases hl : c.lookup now q with
  | mk found c₁ =>
    obtain ⟨a?, stale⟩ := found
    cases a? with
    | some a =>
      cases stale with
      | true =>
        refine ⟨[.arrive now q, .refresh now q u], ?_⟩
        simp only [hl] at h
        obtain ⟨rfl, rfl⟩ := h
        cases hst : storeAnswer now q (resolve u.fast u.clean u.isDomestic q).answer
            (resolve u.fast u.clean u.isDomestic q).source c₁ <;>
          simp [Flight.run, Flight.step, hl, hst]
      | false =>
        refine ⟨[.arrive now q], ?_⟩
        simp only [hl] at h
        obtain ⟨rfl, rfl⟩ := h
        simp [Flight.run, Flight.step, hl]
    | none =>
      refine ⟨[.arrive now q, .settle now q u], ?_⟩
      cases hst : storeAnswer now q (resolve u.fast u.clean u.isDomestic q).answer
          (resolve u.fast u.clean u.isDomestic q).source c₁ with
      | none => simp [hl, hst] at h
      | some stored =>
        simp only [hl, hst, Option.bind_eq_bind, Option.bind_some, Option.pure_def,
          Option.some.injEq, Prod.mk.injEq] at h
        obtain ⟨rfl, rfl⟩ := h
        simp [Flight.run, Flight.step, hl, hst]

end SplitDns
