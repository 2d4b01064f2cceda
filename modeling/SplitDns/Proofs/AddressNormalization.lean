import Mathlib
import SplitDns.Config
import SplitDns.Proofs.AddressText
/-!
# Completing address settings

`SocketAddr.normalize` trims blanks from an address setting and completes a bare IP address
with port 53, keeping any other text as it is. Main statement: normalizing twice changes
nothing more, and the normalized text reads as a socket address exactly when the trimmed text
reads as one, as that address, or as an IP address, as that address with port 53. Loading the
configuration therefore leaves each of its three address settings normalized: the
command-line value when one is given, else the value read from the file, else the default.

The argument rests on two facts about the text of a socket address: it reads back as the
address (`SocketAddr.parse?_toText`), and it has no blank at either end.
-/

namespace SplitDns

namespace Text

/-- A character list with no blank at either end. -/
def Trimmed (cs : List Char) : Prop :=
  (∀ c ∈ cs.head?, isBlank c = false) ∧ ∀ c ∈ cs.getLast?, isBlank c = false

theorem trimBlankList_eq_rdropWhile (cs : List Char) :
    trimBlankList cs = (cs.dropWhile isBlank).rdropWhile isBlank := rfl

theorem trimmed_trimBlankList (cs : List Char) : Trimmed (trimBlankList cs) := by
  rw [trimBlankList_eq_rdropWhile]
  constructor
  case left =>
    intro c hc
    obtain ⟨t, ht⟩ := List.rdropWhile_prefix isBlank (cs.dropWhile isBlank)
    have hfront : c ∈ (cs.dropWhile isBlank).head? := by
      rw [← ht]
      obtain ⟨r, rs, hr⟩ :=
        List.exists_cons_of_ne_nil (List.ne_nil_of_mem (List.mem_of_mem_head? hc))
      rw [hr] at hc ⊢
      exact hc
    have hnot := List.head?_dropWhile_not isBlank cs
    rw [Option.mem_def.1 hfront] at hnot
    exact hnot
  case right =>
    intro c hc
    have hne := List.ne_nil_of_mem (List.mem_of_getLast? hc)
    rw [List.getLast?_eq_some_getLast hne, Option.mem_def, Option.some.injEq] at hc
    rw [← hc]
    simpa using List.rdropWhile_last_not _ _ hne

theorem trimBlankList_of_trimmed {cs : List Char} (h : Trimmed cs) : trimBlankList cs = cs := by
  obtain ⟨hhead, hlast⟩ := h
  have hfront : cs.dropWhile isBlank = cs := by
    cases cs with
    | nil => rfl
    | cons c cs => simp [hhead c rfl]
  rw [trimBlankList_eq_rdropWhile, hfront, List.rdropWhile_eq_self_iff]
  intro hne
  simp [hlast _ (List.getLast?_eq_some_getLast hne)]

@[simp] theorem trimBlankList_trimBlankList (cs : List Char) :
    trimBlankList (trimBlankList cs) = trimBlankList cs :=
  trimBlankList_of_trimmed (trimmed_trimBlankList cs)

theorem trimBlank_of_trimmed {s : String} (h : Trimmed s.toList) : trimBlank s = s := by
  simp [trimBlank, trimBlankList_of_trimmed h]

@[simp] theorem trimBlank_trimBlank (s : String) : trimBlank (trimBlank s) = trimBlank s := by
  simp [trimBlank]

theorem isBlank_of_mem_toDigits {radix n : Nat} {c : Char} (hradix : 1 < radix)
    (h16 : radix ≤ 16) (hc : c ∈ Nat.toDigits radix n) : isBlank c = false := by
  obtain ⟨d, hd, rfl⟩ := mem_toDigits hradix n c hc
  have hall : ∀ e : Fin 16, isBlank (Nat.digitChar e) = false := by decide
  exact hall ⟨d, by omega⟩

end Text

namespace SocketAddr

theorem trimmed_toText (a : SocketAddr) : Text.Trimmed a.toText.toList := by
  have hdigit : ∀ n c, c ∈ Nat.toDigits 10 n → Text.isBlank c = false :=
    fun _ _ => Text.isBlank_of_mem_toDigits (by decide) (by decide)
  obtain ⟨ip, p, scope⟩ := a
  have hlast : ∀ pre : List Char, ∀ c ∈ (pre ++ Nat.toDigits 10 p.toNat).getLast?,
      Text.isBlank c = false := by
    intro pre c hc
    rw [List.getLast?_append_of_ne_nil _ Nat.toDigits_ne_nil] at hc
    exact hdigit _ c (List.mem_of_getLast? hc)
  cases ip with
  | v4 b =>
    refine ⟨?_, ?_⟩
    · intro c hc
      simp only [toText, String.toList_append, IpAddr.v4Text_toList, List.append_assoc,
        List.cons_append] at hc
      rw [List.head?_append_of_ne_nil _ Nat.toDigits_ne_nil] at hc
      exact hdigit _ c (List.mem_of_mem_head? hc)
    · have hend := hlast ((IpAddr.v4Text b).toList ++ [':'])
      simpa [toText] using hend
  | v6 b =>
    refine ⟨?_, ?_⟩
    · intro c hc
      simp only [toText, String.toList_append] at hc
      simp at hc
      rw [← hc]
      decide
    · have hend := hlast (("[" ++ IpAddr.v6Text b ++
        (if scope = 0 then "" else "%" ++ toString scope.toNat)).toList ++ [']', ':'])
      simpa [toText] using hend

theorem trimBlank_toText (a : SocketAddr) : Text.trimBlank a.toText = a.toText :=
  Text.trimBlank_of_trimmed (trimmed_toText a)

/-! ### The three ways an address setting is normalized -/

section Cases

variable {s : String}

theorem normalize_of_parse {a : SocketAddr} (h : parse? (Text.trimBlank s) = some a) :
    normalize s = Text.trimBlank s := by
  dsimp only [normalize]
  rw [h]

theorem normalize_of_ip {ip : IpAddr} (hs : parse? (Text.trimBlank s) = none)
    (hip : IpAddr.parse? (Text.trimBlank s) = some ip) :
    normalize s = toText { ip, port := 53 } := by
  dsimp only [normalize]
  rw [hs]
  dsimp only
  rw [hip]

example : normalize " ::ffff:1.2.3.4 " = "[::ffff:1.2.3.4]:53" := by decide +kernel

theorem normalize_of_neither (hs : parse? (Text.trimBlank s) = none)
    (hip : IpAddr.parse? (Text.trimBlank s) = none) : normalize s = Text.trimBlank s := by
  dsimp only [normalize]
  rw [hs]
  dsimp only
  rw [hip]

end Cases

theorem parse?_toText_port53 (ip : IpAddr) :
    parse? (toText { ip, port := 53 }) = some { ip, port := 53 } :=
  parse?_toText _ (Or.inr rfl)

theorem normalize_normalize (s : String) : normalize (normalize s) = normalize s := by
  rcases hs : parse? (Text.trimBlank s) with _ | a
  case some =>
    have hread : parse? (Text.trimBlank (Text.trimBlank s)) = some a := by
      rw [Text.trimBlank_trimBlank, hs]
    rw [normalize_of_parse hs, normalize_of_parse hread, Text.trimBlank_trimBlank]
  case none =>
    rcases hip : IpAddr.parse? (Text.trimBlank s) with _ | ip
    case some =>
      have hread : parse? (Text.trimBlank (toText { ip, port := 53 })) =
          some { ip, port := 53 } := by
        rw [trimBlank_toText, parse?_toText_port53]
      rw [normalize_of_ip hs hip, normalize_of_parse hread, trimBlank_toText]
    case none =>
      have hs' : parse? (Text.trimBlank (Text.trimBlank s)) = none := by
        rw [Text.trimBlank_trimBlank, hs]
      have hip' : IpAddr.parse? (Text.trimBlank (Text.trimBlank s)) = none := by
        rw [Text.trimBlank_trimBlank, hip]
      rw [normalize_of_neither hs hip, normalize_of_neither hs' hip', Text.trimBlank_trimBlank]

theorem parse?_normalize (s : String) :
    parse? (normalize s) = (parse? (Text.trimBlank s)).or
      ((IpAddr.parse? (Text.trimBlank s)).map fun ip => { ip, port := 53 }) := by
  rcases hs : parse? (Text.trimBlank s) with _ | a
  case some => rw [normalize_of_parse hs, hs, Option.some_or]
  case none =>
    rcases hip : IpAddr.parse? (Text.trimBlank s) with _ | ip
    case some => rw [normalize_of_ip hs hip, parse?_toText_port53, Option.none_or, Option.map_some]
    case none => rw [normalize_of_neither hs hip, hs, Option.none_or, Option.map_none]

end SocketAddr

namespace Config

section Fields

variable (c : Config) (o : Overrides)

@[simp] theorem normalize_fast :
    c.normalize.upstream.fast = SocketAddr.normalize c.upstream.fast := by
  simp only [normalize]

@[simp] theorem normalize_clean :
    c.normalize.upstream.clean = SocketAddr.normalize c.upstream.clean := by
  simp only [normalize]

@[simp] theorem normalize_listen :
    c.normalize.server.listen = SocketAddr.normalize c.server.listen := by
  simp only [normalize]

@[simp] theorem applyOverrides_fast :
    (c.applyOverrides o).upstream.fast = o.fast.getD c.upstream.fast := by
  simp only [applyOverrides]

@[simp] theorem applyOverrides_clean :
    (c.applyOverrides o).upstream.clean = o.clean.getD c.upstream.clean := by
  simp only [applyOverrides]

@[simp] theorem applyOverrides_listen :
    (c.applyOverrides o).server.listen = o.listen.getD c.server.listen := by
  simp only [applyOverrides]

end Fields

/-- The settings loading starts from: those read from the file at the path when one is named,
else the defaults. -/
def StartsFrom (files : String → Option String) : Option String → Config → Prop
  | some p, c₀ => ∃ text, files p = some text ∧ ofToml p text = .ok c₀
  | none, c₀ => c₀ = {}

theorem load_ok {files : String → Option String} {path : Option String} {o : Overrides}
    {c : Config} (h : load files path o = .ok c) :
    ∃ c₀, StartsFrom files path c₀ ∧ c = (c₀.applyOverrides o).normalize := by
  cases path with
  | none => exact ⟨{}, rfl, (Except.ok.inj h).symm⟩
  | some p =>
    dsimp only [load] at h
    cases hfile : files p with
    | none =>
      rw [hfile] at h
      exact nomatch h
    | some text =>
      rw [hfile] at h
      dsimp only at h
      cases hread : ofToml p text with
      | error e =>
        rw [hread] at h
        exact nomatch h
      | ok c₀ =>
        rw [hread] at h
        exact ⟨c₀, ⟨text, hfile, hread⟩, (Except.ok.inj h).symm⟩

end Config

/-- Address settings are normalized idempotently and soundly: a second normalization changes
nothing; the normalized text reads as the socket address the trimmed text reads as, or else as
the IP address it reads as with port 53; and a loaded configuration holds, for each address,
the normalized command-line value, else the normalized value read from the file (or the
default when no file is named), each left unchanged by normalizing again. -/
theorem address_settings_normalized :
    (∀ s : String, SocketAddr.normalize (SocketAddr.normalize s) = SocketAddr.normalize s) ∧
    (∀ s : String, SocketAddr.parse? (SocketAddr.normalize s) =
      (SocketAddr.parse? (Text.trimBlank s)).or
        ((IpAddr.parse? (Text.trimBlank s)).map fun ip => { ip, port := 53 })) ∧
    (∀ (files : String → Option String) (path : Option String) (o : Overrides) (c : Config),
      Config.load files path o = .ok c →
        ∃ c₀ : Config, Config.StartsFrom files path c₀ ∧
        c.upstream.fast = SocketAddr.normalize (o.fast.getD c₀.upstream.fast) ∧
        c.upstream.clean = SocketAddr.normalize (o.clean.getD c₀.upstream.clean) ∧
        c.server.listen = SocketAddr.normalize (o.listen.getD c₀.server.listen) ∧
        SocketAddr.normalize c.upstream.fast = c.upstream.fast ∧
        SocketAddr.normalize c.upstream.clean = c.upstream.clean ∧
        SocketAddr.normalize c.server.listen = c.server.listen) := by
  refine ⟨SocketAddr.normalize_normalize, SocketAddr.parse?_normalize, ?_⟩
  intro files path o c h
  obtain ⟨c₀, hsource, rfl⟩ := Config.load_ok h
  simp only [Config.normalize_fast, Config.normalize_clean, Config.normalize_listen,
    Config.applyOverrides_fast, Config.applyOverrides_clean, Config.applyOverrides_listen,
    SocketAddr.normalize_normalize]
  exact ⟨c₀, hsource, rfl, rfl, rfl, trivial, trivial, trivial⟩

end SplitDns
