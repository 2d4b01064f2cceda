import Mathlib
import SplitDns.Proofs.CacheCalls
import SplitDns.Proofs.StartupChecks
/-!
# When an expiry fits the clock

Storing an answer sets its expiry: the instant of the store plus the answer's lifetime, its
least record TTL when that is positive and the cache's floor otherwise. The clock has an end,
and a store whose expiry would fall past it cannot be made (`AnswerCache.store_isSome_iff`).
Every call keeps the floor the cache was created with (`AnswerCache.replay_minTtl`), so on the
cache a validated configuration creates, after any run of calls, a set succeeds exactly when
the instant plus the lifetime falls before the clock's end (`set_expiry_fits_iff`).

A record TTL is a 32-bit number of seconds, so an answer with a positive least TTL is stored at
every instant up to 2^32 seconds before the end. The floor is a 64-bit number of seconds that
validation leaves unbounded: with the largest one, an answer with no records cannot be stored
even at the clock's origin (`set_overflows_with_largest_floor`).
-/

namespace SplitDns

theorem clockAfter_isSome_iff (now ms : Nat) :
    (clockAfter now ms).isSome ↔ now + ms < clockEnd := by
  unfold clockAfter
  split <;> simp_all

theorem Answer.effectiveTtl_lt_of_minTtl? {a : Answer} {m : UInt32} (floor : Nat)
    (h : a.minTtl? = some m) (hm : 0 < m) : a.effectiveTtl floor < 2 ^ 32 := by
  simp only [Answer.effectiveTtl, h, hm, if_true]
  exact m.toNat_lt

namespace AnswerCache

theorem store_isSome_iff (c : AnswerCache) (now : Nat) (q : Query) (a : Answer) :
    (c.store now q a).isSome ↔ now + a.effectiveTtl c.minTtl * 1000 < clockEnd := by
  rw [← clockAfter_isSome_iff]
  unfold store
  cases clockAfter now (a.effectiveTtl c.minTtl * 1000) with
  | none => rfl
  | some t =>
    simp only [Option.bind_eq_bind, Option.bind_some, Option.isSome_some, iff_true]
    split
    · rfl
    · split <;> rfl

theorem replay_minTtl {c s : AnswerCache} {calls : List CacheCall} {effs : List CallEffect}
    (h : c.replay calls = some (effs, s)) : s.minTtl = c.minTtl := by
  have hstep : ∀ (pre : List CallEffect) (c₁ : AnswerCache) (x : CacheCall) (eff : CallEffect)
      (c₂ : AnswerCache), c₁.minTtl = c.minTtl → c₁.call x = some (eff, c₂) →
        c₂.minTtl = c.minTtl := by
    intro _ c₁ _ _ c₂ h₁ hcall
    rcases call_cases hcall with ⟨now, q, -, -, rfl⟩ | ⟨now, q, a, -, hstore, -⟩
    · exact (lookup_cases c₁ now q).2.1.trans h₁
    · exact (store_cases hstore).2.1.trans h₁
  exact @replay_induction (fun _ s => s.minTtl = c.minTtl) hstep calls [] c effs s rfl h

end AnswerCache

/-- A validated configuration creates a cache, and after any run of calls on it a set at instant
`now` succeeds exactly when `now` plus the answer's lifetime, with the configured floor, falls
before the clock's end. So an answer with a positive least TTL is stored at every instant up to
`2 ^ 32` seconds before the end; an answer falling back to the floor needs the floor itself to
fit. -/
theorem set_expiry_fits_iff (c : Config) (hv : c.validate = .ok ()) :
    ∃ c₀, AnswerCache.create? c.cache.capacity c.cache.minTtlSecs = some c₀ ∧
      ∀ (calls : List CacheCall) (effs : List CallEffect) (s : AnswerCache),
        c₀.replay calls = some (effs, s) → ∀ (now : Nat) (q : Query) (a : Answer),
          ((s.store now q a).isSome ↔
            now + a.effectiveTtl c.cache.minTtlSecs * 1000 < clockEnd) ∧
          (∀ m, a.minTtl? = some m → 0 < m → now + 2 ^ 32 * 1000 ≤ clockEnd →
            (s.store now q a).isSome) := by
  obtain ⟨-, -, -, hcap, -, -⟩ := (Config.validate_eq_ok_iff c).1 hv
  refine ⟨{ capacity := c.cache.capacity, minTtl := c.cache.minTtlSecs },
    by simp [AnswerCache.create?, hcap], fun calls effs s hrun now q a => ?_⟩
  have hfloor : s.minTtl = c.cache.minTtlSecs := AnswerCache.replay_minTtl hrun
  have hfits := AnswerCache.store_isSome_iff s now q a
  rw [hfloor] at hfits
  refine ⟨hfits, fun m hmin hm hnow => hfits.2 ?_⟩
  have hlife := Answer.effectiveTtl_lt_of_minTtl? c.cache.minTtlSecs hmin hm
  omega

/-- The defaults pass validation, so the caches they create store exactly the answers whose
expiry fits the clock. -/
theorem set_expiry_fits_iff_defaults :
    (({} : Config).validate = .ok ()) ∧
      ∃ c₀, AnswerCache.create? 5000 5 = some c₀ ∧
        ∀ (calls : List CacheCall) (effs : List CallEffect) (s : AnswerCache),
          c₀.replay calls = some (effs, s) → ∀ (now : Nat) (q : Query) (a : Answer),
            ((s.store now q a).isSome ↔ now + a.effectiveTtl 5 * 1000 < clockEnd) ∧
            (∀ m, a.minTtl? = some m → 0 < m → now + 2 ^ 32 * 1000 ≤ clockEnd →
              (s.store now q a).isSome) := by
  have hv : ({} : Config).validate = .ok () := by decide +kernel
  exact ⟨hv, set_expiry_fits_iff {} hv⟩

/-- The largest floor a configuration can give passes validation, and with it an answer with no
records cannot be stored even at the clock's origin: its expiry falls past the clock's end. -/
theorem set_overflows_with_largest_floor :
    let c : Config := { cache := { minTtlSecs := 18446744073709551615 } }
    c.validate = .ok () ∧
      ∃ c₀, AnswerCache.create? c.cache.capacity c.cache.minTtlSecs = some c₀ ∧
        c₀.store 0 { domain := "x.", type := RecordType.txt } { status := Rcode.noError } =
          none := by
  intro c
  have hv : c.validate = .ok () := by
    simp only [c]
    decide +kernel
  refine ⟨hv, { capacity := 5000, minTtl := 18446744073709551615 }, rfl, ?_⟩
  apply Option.not_isSome_iff_eq_none.1
  rw [AnswerCache.store_isSome_iff]
  simp only [Answer.effectiveTtl, Answer.minTtl?, List.foldl_nil, clockEnd]
  decide

end SplitDns
