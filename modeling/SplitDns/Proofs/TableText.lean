import Mathlib
import SplitDns.Domestic.Builtin
/-!
# Reading a table text

A table text is read line by line. Its lines are what a line reader gives (`lineTexts`): the
pieces between line feeds, a carriage return before a line feed dropped with it, and no empty
line after a final line feed. Each line is cut at its first `#` and trimmed, and the lines left
empty are skipped (`significantLines`). Splitting at the line feeds alone and trimming gives the
same lines, because a carriage return at the end of a line is a blank (`lines_eq_significant`).

Every significant line must be a network. Reading then gives the table of all of them
(`ofText_eq_ok_iff`); otherwise it reports the first line, in text order, that is none, with the
reader's text for it (`ofText_eq_error_iff`). The built-in table skips the lines that are no
network instead, so it is the table its text reads to whenever that text reads
(`builtin_eq_of_ofText`). `ofText_reads_significant_lines` states all of it.
-/

namespace SplitDns

namespace Text

theorem isBlank_carriageReturn : isBlank '\r' = true := by decide

theorem trimBlankList_append_blank {c : Char} (hc : isBlank c = true) (cs : List Char) :
    trimBlankList (cs ++ [c]) = trimBlankList cs := by
  unfold trimBlankList dropBlank
  rw [List.dropWhile_append]
  split
  case isTrue hnil =>
    rw [List.isEmpty_iff.1 hnil]
    simp [hc]
  case isFalse =>
    simp [hc]

end Text

/-- A line without the carriage return that ended it. -/
def dropCarriageReturn (line : String) : String :=
  if line.toList.getLast? = some '\r' then String.ofList line.toList.dropLast else line

/-- The lines of a text as a line reader gives them: split at each line feed, a carriage return
before the line feed dropped with it, and the empty piece after a final line feed left out. -/
def lineTexts (text : String) : List String :=
  let pieces := text.splitOn "\n"
  pieces.dropLast.map dropCarriageReturn ++
    (if pieces.getLast?.getD "" = "" then [] else [pieces.getLast?.getD ""])

/-- What a line contributes: the text before its first `#`, trimmed, unless that is empty. -/
def lineBody (line : String) : Option String :=
  let body := Text.trimBlank (String.ofList (line.toList.takeWhile (· ≠ '#')))
  if body.isEmpty then none else some body

/-- The significant lines of a table text, in order. -/
def significantLines (text : String) : List String :=
  (lineTexts text).filterMap lineBody

theorem lineBody_empty : lineBody "" = none := by decide

theorem lineBody_dropCarriageReturn (line : String) :
    lineBody (dropCarriageReturn line) = lineBody line := by
  unfold dropCarriageReturn
  split
  case isFalse => rfl
  case isTrue hcr =>
    obtain ⟨cs, hcs⟩ := List.getLast?_eq_some_iff.1 hcr
    have hdrop : line.toList.dropLast = cs := by simp [hcs]
    -- the cut keeps the carriage return only when the line has no `#`, and trimming drops it
    have hcut : Text.trimBlankList ((cs ++ ['\r']).takeWhile (· ≠ '#')) =
        Text.trimBlankList (cs.takeWhile (· ≠ '#')) := by
      rw [List.takeWhile_append]
      split
      case isTrue hall =>
        have hself : cs.takeWhile (· ≠ '#') = cs := (List.takeWhile_prefix _).eq_of_length hall
        have hcr : (['\r'].takeWhile fun c => decide (c ≠ '#')) = ['\r'] := by decide
        rw [hself, hcr, Text.trimBlankList_append_blank Text.isBlank_carriageReturn]
      case isFalse => rfl
    simp only [lineBody, Text.trimBlank, String.toList_ofList, hdrop]
    rw [hcs, hcut]

theorem lines_eq_filterMap (text : String) :
    DomesticTable.lines text = (text.splitOn "\n").filterMap lineBody := rfl

theorem lines_eq_significant (text : String) : DomesticTable.lines text = significantLines text := by
  rw [lines_eq_filterMap, significantLines, lineTexts]
  rcases List.eq_nil_or_concat (text.splitOn "\n") with hnil | ⟨init, last, hsplit⟩
  · rw [hnil]
    rfl
  · -- a carriage return changes no line's body, and an empty last piece has none
    have hinit : (init.map dropCarriageReturn).filterMap lineBody = init.filterMap lineBody := by
      simp only [List.filterMap_map, Function.comp_def, lineBody_dropCarriageReturn]
    have hlast : (if last = "" then [] else [last]).filterMap lineBody = [last].filterMap lineBody := by
      split
      case isTrue h => rw [h, List.filterMap_cons, lineBody_empty]
      case isFalse => rfl
    rw [List.concat_eq_append] at hsplit
    simp only [hsplit, List.dropLast_concat, List.getLast?_concat, Option.getD_some,
      List.filterMap_append, hinit, hlast]

/-! ## Reading the lines in order -/

namespace DomesticTable

/-- Reads one significant line: its network, or the error naming the line. -/
def readLine (line : String) : Except DomainError Cidr :=
  match Cidr.parse? line with
  | some c => .ok c
  | none => .error (.invalidIpRange (line ++ ": invalid address: " ++ line))

theorem ofText_eq (text : String) :
    ofText text = (significantLines text).mapM readLine >>= fun ns => pure (ofNetworks ns) := by
  rw [← lines_eq_significant]
  rfl

/-- The text of the error for a line that is no network. -/
def lineError (line : String) : DomainError :=
  .invalidIpRange (line ++ ": invalid address: " ++ line)

theorem readLine_of_some {line : String} {c : Cidr} (h : Cidr.parse? line = some c) :
    readLine line = .ok c := by
  simp only [readLine, h]

theorem readLine_of_none {line : String} (h : Cidr.parse? line = none) :
    readLine line = .error (lineError line) := by
  simp only [readLine, h, lineError]

theorem mapM_readLine_eq_ok_iff (ls : List String) (ns : List Cidr) :
    ls.mapM readLine = .ok ns ↔
      (∀ l ∈ ls, (Cidr.parse? l).isSome) ∧ ns = ls.filterMap Cidr.parse? := by
  induction ls generalizing ns with
  | nil =>
    show Except.ok [] = Except.ok ns ↔ _
    simp only [Except.ok.injEq, List.not_mem_nil, IsEmpty.forall_iff, implies_true,
      List.filterMap_nil, true_and, eq_comm]
  | cons l ls ih =>
    rw [List.mapM_cons]
    cases hl : Cidr.parse? l with
    | none =>
      rw [readLine_of_none hl]
      refine ⟨fun h => (nomatch h), fun ⟨hall, _⟩ => ?_⟩
      simpa [hl] using hall l List.mem_cons_self
    | some c =>
      rw [readLine_of_some hl]
      cases hrest : ls.mapM readLine with
      | error e =>
        refine ⟨fun h => (nomatch h), fun ⟨hall, _⟩ => ?_⟩
        have := (ih _).2 ⟨fun x hx => hall x (List.mem_cons_of_mem l hx), rfl⟩
        rw [hrest] at this
        exact nomatch this
      | ok ms =>
        obtain ⟨hall, rfl⟩ := (ih ms).1 hrest
        show Except.ok (c :: ls.filterMap Cidr.parse?) = Except.ok ns ↔ _
        simp only [Except.ok.injEq, List.forall_mem_cons, hl, Option.isSome_some,
          List.filterMap_cons_some hl, true_and]
        exact ⟨fun h => ⟨hall, h.symm⟩, fun h => h.2.symm⟩

theorem mapM_readLine_eq_error_iff (ls : List String) (e : DomainError) :
    ls.mapM readLine = .error e ↔
      ∃ pre l post, ls = pre ++ l :: post ∧ (∀ x ∈ pre, (Cidr.parse? x).isSome) ∧
        Cidr.parse? l = none ∧ e = lineError l := by
  induction ls with
  | nil =>
    refine ⟨fun h => (nomatch h), fun ⟨pre, l, post, h, _⟩ => ?_⟩
    exact absurd h.symm (List.append_ne_nil_of_right_ne_nil pre (List.cons_ne_nil l post))
  | cons l ls ih =>
    rw [List.mapM_cons]
    cases hl : Cidr.parse? l with
    | none =>
      rw [readLine_of_none hl]
      constructor
      · intro h
        cases h
        exact ⟨[], l, ls, rfl, by simp, hl, rfl⟩
      · rintro ⟨pre, l', post, heq, hpre, hfail, rfl⟩
        cases pre with
        | nil =>
          obtain ⟨rfl, -⟩ := List.cons.inj heq
          rfl
        | cons x pre =>
          obtain ⟨rfl, -⟩ := List.cons.inj heq
          simpa [hl] using hpre l List.mem_cons_self
    | some c =>
      rw [readLine_of_some hl]
      have hbind : (Except.ok c >>= fun b => ls.mapM readLine >>= fun bs => pure (b :: bs)) =
          .error e ↔ ls.mapM readLine = .error e := by
        show (ls.mapM readLine >>= fun bs => pure (c :: bs)) = .error e ↔ _
        cases ls.mapM readLine with
        | error e' => exact Iff.rfl
        | ok ms => exact ⟨fun h => (nomatch h), fun h => (nomatch h)⟩
      rw [hbind, ih]
      constructor
      · rintro ⟨pre, l', post, rfl, hpre, hfail, herr⟩
        refine ⟨l :: pre, l', post, rfl, fun x hx => ?_, hfail, herr⟩
        rcases List.mem_cons.1 hx with rfl | hx
        · simp [hl]
        · exact hpre x hx
      · rintro ⟨pre, l', post, heq, hpre, hfail, herr⟩
        cases pre with
        | nil =>
          obtain ⟨rfl, -⟩ := List.cons.inj heq
          simp [hl] at hfail
        | cons x pre =>
          obtain ⟨rfl, rfl⟩ := List.cons.inj heq
          exact ⟨pre, l', post, rfl, fun y hy => hpre y (List.mem_cons_of_mem _ hy), hfail, herr⟩

/-! ## Reading a table text -/

/-- A text reads exactly when all its significant lines are networks, to the table of them. -/
theorem ofText_eq_ok_iff (text : String) (table : DomesticTable) :
    ofText text = .ok table ↔
      (∀ l ∈ significantLines text, (Cidr.parse? l).isSome) ∧
        table = ofNetworks ((significantLines text).filterMap Cidr.parse?) := by
  rw [ofText_eq]
  cases hread : (significantLines text).mapM readLine with
  | error e =>
    refine ⟨fun h => (nomatch h), fun ⟨hall, _⟩ => ?_⟩
    have := (mapM_readLine_eq_ok_iff _ _).2 ⟨hall, rfl⟩
    rw [hread] at this
    exact nomatch this
  | ok ns =>
    obtain ⟨hall, rfl⟩ := (mapM_readLine_eq_ok_iff _ _).1 hread
    show Except.ok (ofNetworks _) = Except.ok table ↔ _
    simp only [Except.ok.injEq]
    exact ⟨fun h => ⟨hall, h.symm⟩, fun h => h.2.symm⟩

/-- A text that does not read reports its first significant line that is no network. -/
theorem ofText_eq_error_iff (text : String) (e : DomainError) :
    ofText text = .error e ↔
      ∃ pre l post, significantLines text = pre ++ l :: post ∧
        (∀ x ∈ pre, (Cidr.parse? x).isSome) ∧ Cidr.parse? l = none ∧ e = lineError l := by
  rw [ofText_eq, ← mapM_readLine_eq_error_iff]
  cases (significantLines text).mapM readLine with
  | error e' =>
    show (Except.error e' : Except DomainError DomesticTable) = .error e ↔ _
    simp only [Except.error.injEq]
  | ok ns => exact ⟨fun h => (nomatch h), fun h => (nomatch h)⟩

theorem builtin_eq_significant :
    builtin = ofNetworks ((significantLines builtinText).filterMap Cidr.parse?) := by
  rw [builtin, lines_eq_significant]

/-- The built-in table is the one its text reads to, whenever that text reads. -/
theorem builtin_eq_of_ofText {table : DomesticTable} (h : ofText builtinText = .ok table) :
    builtin = table := by
  rw [builtin_eq_significant, ((ofText_eq_ok_iff _ _).1 h).2]

end DomesticTable

open DomesticTable in
/-- A table text reads to the table of its significant lines when each is a network, and
otherwise reports the first that is none; the built-in table keeps the lines of its text that
are networks, so it is the table that text reads to whenever it reads. -/
theorem ofText_reads_significant_lines (text : String) :
    (ofText text = .ok (ofNetworks ((significantLines text).filterMap Cidr.parse?)) ↔
      ∀ l ∈ significantLines text, (Cidr.parse? l).isSome) ∧
    (∀ e, ofText text = .error e ↔
      ∃ pre l post, significantLines text = pre ++ l :: post ∧
        (∀ x ∈ pre, (Cidr.parse? x).isSome) ∧ Cidr.parse? l = none ∧
        e = .invalidIpRange (l ++ ": invalid address: " ++ l)) ∧
    builtin = ofNetworks ((significantLines builtinText).filterMap Cidr.parse?) ∧
    (∀ table, ofText builtinText = .ok table → builtin = table) := by
  refine ⟨?_, fun e => ofText_eq_error_iff text e, builtin_eq_significant,
    fun _ h => builtin_eq_of_ofText h⟩
  rw [ofText_eq_ok_iff]
  exact ⟨fun h => h.1, fun h => ⟨h, rfl⟩⟩

end SplitDns
