import Mathlib
import SplitDns.Cli.Run
/-!
# Checking a configuration, and what wiring may still refuse

`Config.validate` makes six checks in order (`Config.checks`): the fast resolver, the clean
resolver and the listening address each read as a socket address, the cache size and the
timeout are positive, and the log level, with its ASCII letters made small, is one of the five
known ones. It is `Config.firstFailure` of that list (`validate_eq_firstFailure`): it passes
when every check does, and otherwise reports the error of the first check that fails, naming the
field it checks.

The forwarder reads the same settings again when it is wired (`Cli.wire`): the two resolver
addresses, and the cache size through the creation of the cache. A configuration that passed
validation passes these too, so wiring it fails only when the file of domestic networks cannot
be read (`Cli.wire_error_iff`). `validate_agrees_with_wiring` states all of it.
-/

namespace SplitDns
namespace Config

/-- A check of a configuration: whether it passes, and the error reported when it does not. -/
structure Check where
  passes : Bool
  error : ConfigError

/-- Makes checks in order: the error of the first that fails, if one does. -/
def firstFailure : List Check → Except ConfigError Unit
  | [] => .ok ()
  | k :: ks => if k.passes then firstFailure ks else .error k.error

/-- The checks of a configuration, in the order they are made. -/
def checks (c : Config) : List Check :=
  [⟨(SocketAddr.parse? c.upstream.fast).isSome,
      .invalid "upstream.fast" ("'" ++ c.upstream.fast ++ "' is not an ip:port address")⟩,
   ⟨(SocketAddr.parse? c.upstream.clean).isSome,
      .invalid "upstream.clean" ("'" ++ c.upstream.clean ++ "' is not an ip:port address")⟩,
   ⟨(SocketAddr.parse? c.server.listen).isSome,
      .invalid "server.listen" ("'" ++ c.server.listen ++ "' is not an ip:port address")⟩,
   ⟨c.cache.capacity != 0, .invalid "cache.capacity" "must be greater than zero"⟩,
   ⟨c.upstream.queryTimeoutMs != 0,
      .invalid "upstream.query_timeout_ms" "must be greater than zero"⟩,
   ⟨["trace", "debug", "info", "warn", "error"].contains (asciiLower c.logging.level),
      .invalid "logging.level"
        ("'" ++ c.logging.level ++ "' is not one of trace, debug, info, warn, error")⟩]

/-! ## Making checks in order -/

theorem firstFailure_eq_ok_iff (ks : List Check) :
    firstFailure ks = .ok () ↔ ∀ k ∈ ks, k.passes = true := by
  induction ks with
  | nil => simp [firstFailure]
  | cons k ks ih => cases hk : k.passes <;> simp [firstFailure, hk, ih]

theorem firstFailure_eq_error_iff (ks : List Check) (e : ConfigError) :
    firstFailure ks = .error e ↔
      ∃ pre k post, ks = pre ++ k :: post ∧ (∀ k' ∈ pre, k'.passes = true) ∧
        k.passes = false ∧ k.error = e := by
  induction ks with
  | nil => simp [firstFailure]
  | cons k ks ih =>
    cases hk : k.passes with
    | true =>
      simp only [firstFailure, hk, if_true, ih]
      constructor
      · rintro ⟨pre, k', post, rfl, hpre, hfail, herr⟩
        refine ⟨k :: pre, k', post, rfl, fun k'' hk'' => ?_, hfail, herr⟩
        rcases List.mem_cons.1 hk'' with rfl | hk''
        · exact hk
        · exact hpre k'' hk''
      · rintro ⟨pre, k', post, heq, hpre, hfail, herr⟩
        cases pre with
        | nil =>
          obtain ⟨rfl, -⟩ := List.cons.inj heq
          simp [hk] at hfail
        | cons k'' pre =>
          obtain ⟨rfl, rfl⟩ := List.cons.inj heq
          exact ⟨pre, k', post, rfl, fun x hx => hpre x (List.mem_cons_of_mem _ hx), hfail, herr⟩
    | false =>
      simp only [firstFailure, hk, Bool.false_eq_true, if_false, Except.error.injEq]
      constructor
      · rintro rfl
        exact ⟨[], k, ks, rfl, by simp, hk, rfl⟩
      · rintro ⟨pre, k', post, heq, hpre, hfail, herr⟩
        cases pre with
        | nil =>
          obtain ⟨rfl, -⟩ := List.cons.inj heq
          exact herr
        | cons k'' pre =>
          obtain ⟨rfl, -⟩ := List.cons.inj heq
          simp [hk] at hpre

/-! ## Validation makes the checks in order -/

theorem addressOf_bind {β : Type} (field value : String) (r : Except ConfigError β) :
    (addressOf field value >>= fun _ => r) =
      if (SocketAddr.parse? value).isSome then r
      else .error (.invalid field ("'" ++ value ++ "' is not an ip:port address")) := by
  unfold addressOf
  cases SocketAddr.parse? value <;> rfl

theorem addressOf_ok_of_isSome (field : String) {value : String}
    (h : (SocketAddr.parse? value).isSome) :
    ∃ a, addressOf field value = .ok a := by
  unfold addressOf
  cases hp : SocketAddr.parse? value with
  | none => simp [hp] at h
  | some a => exact ⟨a, rfl⟩

theorem unknownLevel_text (level : String) :
    "'" ++ level ++ "' is not one of " ++ ", ".intercalate logLevels =
      "'" ++ level ++ "' is not one of trace, debug, info, warn, error" := by
  have hjoin : "' is not one of " ++ ", ".intercalate logLevels =
      "' is not one of trace, debug, info, warn, error" := by decide
  rw [String.append_assoc, hjoin]

theorem pure_eq {β : Type} (b : β) : (pure b : Except ConfigError β) = .ok b := rfl

theorem throw_eq {β : Type} (e : ConfigError) : (throw e : Except ConfigError β) = .error e := rfl

theorem error_bind {β γ : Type} (e : ConfigError) (f : β → Except ConfigError γ) :
    ((Except.error e : Except ConfigError β) >>= f) = .error e := rfl

theorem validate_eq_firstFailure (c : Config) : c.validate = firstFailure c.checks := by
  simp only [validate, fastAddr, cleanAddr, listenAddr, addressOf_bind, unknownLevel_text,
    throw_eq, error_bind, pure_eq]
  simp only [checks, firstFailure, logLevels, bne_iff_ne, ne_eq, ite_not, Bool.not_eq_true']
  -- both sides are the same six nested tests; only the level test is spelled the other way
  split_ifs <;> simp_all

theorem validate_eq_ok_iff (c : Config) :
    c.validate = .ok () ↔
      (SocketAddr.parse? c.upstream.fast).isSome ∧ (SocketAddr.parse? c.upstream.clean).isSome ∧
      (SocketAddr.parse? c.server.listen).isSome ∧ c.cache.capacity ≠ 0 ∧
      c.upstream.queryTimeoutMs ≠ 0 ∧
      asciiLower c.logging.level ∈ ["trace", "debug", "info", "warn", "error"] := by
  rw [validate_eq_firstFailure, firstFailure_eq_ok_iff]
  simp [checks]

end Config

namespace Cli

theorem wire_error_iff {files : String → Option String} {c : Config} {fast clean : SocketAddr}
    {cache : AnswerCache} (hfast : c.fastAddr = .ok fast) (hclean : c.cleanAddr = .ok clean)
    (hcache : AnswerCache.create? c.cache.capacity c.cache.minTtlSecs = some cache)
    (e : WiringError) :
    (wire files c).2 = .error e ↔
      ∃ path de, classifierOf files c = .error (path, de) ∧ e = .classifier path de := by
  unfold wire
  rw [hfast, hclean, hcache]
  cases classifierOf files c with
  | error failure =>
    obtain ⟨path, de⟩ := failure
    simp [eq_comm]
  | ok table => simp

end Cli

/-- A configuration passes validation exactly when its three addresses read as socket
addresses, its cache size and timeout are positive and its log level, with ASCII letters made
small, is a known one; a failure reports the error of the first check that fails, in the order
fast, clean, listen, cache size, timeout, level. After validation the addresses read again
and the cache can be created, so wiring fails only on the file of domestic networks. -/
theorem validate_agrees_with_wiring (c : Config) :
    (c.validate = .ok () ↔
      (SocketAddr.parse? c.upstream.fast).isSome ∧ (SocketAddr.parse? c.upstream.clean).isSome ∧
      (SocketAddr.parse? c.server.listen).isSome ∧ c.cache.capacity ≠ 0 ∧
      c.upstream.queryTimeoutMs ≠ 0 ∧
      Config.asciiLower c.logging.level ∈ ["trace", "debug", "info", "warn", "error"]) ∧
    (∀ e, c.validate = .error e ↔
      ∃ pre k post, c.checks = pre ++ k :: post ∧ (∀ k' ∈ pre, k'.passes = true) ∧
        k.passes = false ∧ k.error = e) ∧
    (c.validate = .ok () →
      (∃ a, c.fastAddr = .ok a) ∧ (∃ a, c.cleanAddr = .ok a) ∧ (∃ a, c.listenAddr = .ok a) ∧
      (AnswerCache.create? c.cache.capacity c.cache.minTtlSecs).isSome ∧
      ∀ files e, (Cli.wire files c).2 = .error e ↔
        ∃ path de, Cli.classifierOf files c = .error (path, de) ∧ e = .classifier path de) := by
  have hok := Config.validate_eq_ok_iff c
  refine ⟨hok, fun e => ?_, fun hv => ?_⟩
  · rw [Config.validate_eq_firstFailure, Config.firstFailure_eq_error_iff]
  · obtain ⟨hfast, hclean, hlisten, hcap, -, -⟩ := hok.1 hv
    obtain ⟨fast, hfast⟩ := Config.addressOf_ok_of_isSome "upstream.fast" hfast
    obtain ⟨clean, hclean⟩ := Config.addressOf_ok_of_isSome "upstream.clean" hclean
    obtain ⟨listen, hlisten⟩ := Config.addressOf_ok_of_isSome "server.listen" hlisten
    have hcache : AnswerCache.create? c.cache.capacity c.cache.minTtlSecs =
        some { capacity := c.cache.capacity, minTtl := c.cache.minTtlSecs } := by
      simp [AnswerCache.create?, hcap]
    exact ⟨⟨fast, hfast⟩, ⟨clean, hclean⟩, ⟨listen, hlisten⟩, by simp [hcache],
      fun files e => Cli.wire_error_iff hfast hclean hcache e⟩

/-- A configuration listening on an IPv6 address, with its log level in capitals, passes
validation, and wiring it fails only on its file of domestic networks. -/
theorem validate_agrees_with_wiring_ipv6_listener :
    let c : Config := { server := { listen := "[::1]:5300" }, logging := { level := "WARN" } }
    c.validate = .ok () ∧
      (∃ a, c.fastAddr = .ok a) ∧ (∃ a, c.cleanAddr = .ok a) ∧ (∃ a, c.listenAddr = .ok a) ∧
      (AnswerCache.create? c.cache.capacity c.cache.minTtlSecs).isSome ∧
      ∀ files e, (Cli.wire files c).2 = .error e ↔
        ∃ path de, Cli.classifierOf files c = .error (path, de) ∧ e = .classifier path de := by
  intro c
  have hv : c.validate = .ok () := by
    simp only [c]
    decide +kernel
  exact ⟨hv, (validate_agrees_with_wiring c).2.2 hv⟩

/- An address that is no socket address is reported before a cache size of zero. -/
example : ({ upstream := { fast := "dns.example" }, cache := { capacity := 0 } } : Config).validate =
    .error (.invalid "upstream.fast" "'dns.example' is not an ip:port address") := by
  decide +kernel

end SplitDns
