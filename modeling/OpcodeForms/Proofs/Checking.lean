import OpcodeForms.Expectation.Run
import OpcodeForms.Proofs.JoinedFields

/-!
# The verdict on an expectation file

An entry passes if its fields are rendered as they are expected, field by field and up to blanks
(`Passes`). A run compares joined texts instead. For rendered fields without bars that comes to the
same (`passes_iff`), since the fields can be read back from the text.

A run reads one entry after the other and keeps a tally. One step of it takes the next result from
the reader (`exists_checkFrom_eq_of_ok`); so a run over entries adds all of them to the tally
(`exists_checkFrom_eq`), and then concludes at the end of the file or at a faulty line.
-/

namespace OpcodeForms.Expectation

open Text

variable {file : List Char} {render : Renderer} {e : Entry} {t : Tally} {r : Reader}
  {fields others : List (List Char)} {entries : List Entry}
  {rest : List (Except FormatError Entry)} {fault : FormatError} {src : List Char}

/-! ## Entries that pass -/

/-- The entry passes: its fields are rendered, as many as expected, and each as it is expected once
runs of blanks are squeezed and blanks at the ends are trimmed. -/
def Passes (render : Renderer) (e : Entry) : Prop :=
  ∃ fields, render e = .ok fields ∧
    List.Forall₂ (fun f g => trim (squeeze f) = trim (squeeze g)) fields e.fields

theorem forall₂_squeeze_iff :
    List.Forall₂ (fun f g => trim (squeeze f) = trim (squeeze g)) fields others ↔
      fields.map normalize = others.map normalize := by
  simp only [← normalize_eq]
  rw [← List.forall₂_map_right_iff (f := normalize) (R := fun f g => normalize f = g),
    ← List.forall₂_map_left_iff (f := normalize), List.forall₂_eq_eq_eq]

instance (render : Renderer) (e : Entry) : Decidable (Passes render e) :=
  match h : render e with
  | .error _ => isFalse fun ⟨_, hok, _⟩ => by rw [h] at hok; cases hok
  | .ok fields => decidable_of_iff (fields.map normalize = e.fields.map normalize) (by
      simp [Passes, h, forall₂_squeeze_iff])

/-- The fields of an entry that is read are the pieces of a text between its bars. -/
theorem fields_of_mem_results (h : .ok e ∈ results src) :
    e.fields ≠ [] ∧ ∀ f ∈ e.fields, '|' ∉ f := by
  obtain ⟨line, -, hline⟩ := List.mem_filterMap.mp h
  cases Entry.outcome_of_ofLine? hline with
  | entry _ _ _ hfields _ =>
    rw [hfields]
    refine ⟨by simp [List.splitOn_ne_nil], ?_⟩
    intro f hf hbar
    obtain ⟨p, hp, rfl⟩ := List.mem_map.mp hf
    have hpiece := (mem_pieces (· == '|') _ p hp '|' (mem_of_mem_trim hbar)).2
    exact absurd hpiece (by decide)

/-- **An entry passes exactly if the joined texts are the same.** -/
theorem passes_iff (h : render e = .ok fields) (hfields : fields ≠ [] ∧ ∀ f ∈ fields, '|' ∉ f)
    (he : e.fields ≠ [] ∧ ∀ f ∈ e.fields, '|' ∉ f) :
    Passes render e ↔ joinFields fields = joinFields e.fields := by
  rw [joinFields_eq_iff hfields.1 hfields.2 he.1 he.2, ← forall₂_squeeze_iff]
  simp [Passes, h]

/-! ## The verdict on an entry -/

/-- The rendered fields of an entry can be told apart once they are joined. -/
def Separable (render : Renderer) : Prop :=
  ∀ e fields, render e = .ok fields → fields ≠ [] ∧ ∀ f ∈ fields, '|' ∉ f

/-- The verdict that an entry deserves. -/
inductive Deserves (render : Renderer) (e : Entry) : Verdict → Prop
  | passed (passes : Passes render e) : Deserves render e .passed
  | refused {message : String} (h : render e = .error message) :
    Deserves render e (.refused message)
  | differs {fields : List (List Char)} (h : render e = .ok fields) (fails : ¬ Passes render e) :
    Deserves render e (.differs (joinFields e.fields) (joinFields fields))

/-- **An entry gets the verdict that it deserves.** -/
theorem deserves_ofEntry (hrender : Separable render)
    (he : e.fields ≠ [] ∧ ∀ f ∈ e.fields, '|' ∉ f) :
    Deserves render e (Verdict.ofEntry render e) := by
  cases h : render e with
  | error message =>
    rw [Verdict.ofEntry, h]
    exact .refused h
  | ok fields =>
    have hiff := passes_iff h (hrender e fields h) he
    simp only [Verdict.ofEntry, h]
    split
    · next hsame => exact .passed (hiff.mpr hsame)
    · next hsame => exact .differs h (mt hiff.mp hsame)

theorem Deserves.isFailure_eq {v : Verdict} (h : Deserves render e v) :
    v.isFailure = decide (¬ Passes render e) := by
  cases h with
  | passed passes => simp [passes, Verdict.isFailure]
  | refused h =>
    have hfails : ¬ Passes render e := by
      rintro ⟨fields, hok, -⟩
      rw [h] at hok
      cases hok
    simp [hfails, Verdict.isFailure]
  | differs h fails => simp [fails, Verdict.isFailure]

/-- The part of the report on an entry: none if it passes, else the place of the entry with the
reason why it is not rendered, or with the difference between the joined texts. -/
inductive Reported (file : List Char) (render : Renderer) (e : Entry) : List Char → Prop
  | passing (passes : Passes render e) : Reported file render e []
  | refused {message : String} (h : render e = .error message) :
    Reported file render e
      ("error: ".toList ++ message.toList ++ ", ".toList ++ file ++ ':' :: decimal e.line
        ++ ['\n'])
  | differing {fields : List (List Char)} (h : render e = .ok fields)
    (fails : ¬ Passes render e) :
    Reported file render e
      ("error: ".toList ++ "invalid output".toList ++ ", ".toList ++ file ++ ':' :: decimal e.line
        ++ ['\n'] ++ differenceText file e.line e.name (joinFields e.fields) (joinFields fields)
        ++ ['\n'])

theorem Deserves.reported {v : Verdict} (h : Deserves render e v) (file : List Char) :
    Reported file render e (v.report file e) := by
  cases h with
  | passed passes => exact .passing passes
  | refused h => exact .refused h
  | differs h fails => exact .differing h fails

/-! ## Steps of a run -/

theorem checkFrom_eq_of_nil (h : r.remaining = []) :
    checkFrom file render t r = (t.outcome, t.report) := by
  obtain ⟨hnext, -⟩ := r.next_eq
  rw [h] at hnext
  rw [checkFrom]
  split
  · next heq => rw [heq] at hnext; cases hnext
  · rfl
  · next heq => rw [heq] at hnext; cases hnext

theorem checkFrom_eq_of_error (h : r.remaining = .error fault :: rest) :
    checkFrom file render t r = (.error (.format fault), t.report) := by
  obtain ⟨hnext, -⟩ := r.next_eq
  rw [h] at hnext
  rw [checkFrom]
  split
  · next heq =>
    rw [heq] at hnext
    obtain ⟨hfault, -⟩ := Prod.mk.inj hnext
    rw [Except.error.inj hfault]
  · next heq => rw [heq] at hnext; cases hnext
  · next heq => rw [heq] at hnext; cases hnext

/-- An entry is added to the tally, and the run goes on with what is left. -/
theorem exists_checkFrom_eq_of_ok (h : r.remaining = .ok e :: rest) :
    ∃ r' : Reader, r'.remaining = rest ∧
      checkFrom file render t r
        = checkFrom file render (t.add file e (Verdict.ofEntry render e)) r' := by
  obtain ⟨hnext, hrest⟩ := r.next_eq
  rw [h] at hnext hrest
  refine ⟨r.next.2, hrest, ?_⟩
  rw [checkFrom]
  split
  · next heq => rw [heq] at hnext; cases hnext
  · next heq => rw [heq] at hnext; cases hnext
  · next r' heq =>
    rw [heq] at hnext ⊢
    obtain ⟨-, hcurrent⟩ := Prod.mk.inj hnext
    rw [hcurrent]

/-! ## Whole runs -/

/-- The tally with all of the entries added to it. -/
def Tally.addAll (file : List Char) (render : Renderer) (t : Tally) (entries : List Entry) :
    Tally :=
  entries.foldl (fun t e => t.add file e (Verdict.ofEntry render e)) t

/-- **A run over entries adds all of them to its tally**, and goes on with what follows them. -/
theorem exists_checkFrom_eq (h : r.remaining = entries.map .ok ++ rest) :
    ∃ r' : Reader, r'.remaining = rest ∧
      checkFrom file render t r = checkFrom file render (t.addAll file render entries) r' := by
  induction entries generalizing r t with
  | nil => exact ⟨r, h, rfl⟩
  | cons e entries ih =>
    obtain ⟨r₁, hr₁, hstep⟩ := exists_checkFrom_eq_of_ok h
    obtain ⟨r₂, hr₂, hrun⟩ := ih hr₁
    exact ⟨r₂, hr₂, hstep.trans hrun⟩

/-- What the tally counts, and how its report grows: one part for each entry, in order. -/
theorem addAll_eq (t : Tally) (entries : List Entry) :
    t.addAll file render entries =
      { count := t.count + entries.length
        failed := t.failed + entries.countP fun e => (Verdict.ofEntry render e).isFailure
        report := t.report
          ++ (entries.map fun e => (Verdict.ofEntry render e).report file e).flatten } := by
  induction entries generalizing t with
  | nil => simp [Tally.addAll]
  | cons e entries ih =>
    have hstep : t.addAll file render (e :: entries)
        = (t.add file e (Verdict.ofEntry render e)).addAll file render entries := rfl
    rw [hstep, ih, Tally.mk.injEq, List.length_cons, List.countP_cons, List.map_cons,
      List.flatten_cons, ← List.append_assoc]
    refine ⟨?_, ?_, rfl⟩
    · show t.count + 1 + entries.length = _
      omega
    · show (if (Verdict.ofEntry render e).isFailure then t.failed + 1 else t.failed) + _ = _
      split <;> omega

/-- **The counts of a run do not exceed the length of its file**, whatever part of the entries has
been checked. So 32 bits, sign included, are enough for them if the file has less than 2³¹
characters. -/
theorem counts_le_length (h : results src = entries.map .ok ++ rest)
    (ht : t = ({} : Tally).addAll file render entries) :
    t.failed ≤ t.count ∧ t.count ≤ src.length := by
  have hlength : entries.length ≤ src.length := by
    have hresults := length_results_le src
    rw [h, List.length_append, List.length_map] at hresults
    omega
  have hfailed : entries.countP (fun e => (Verdict.ofEntry render e).isFailure) ≤ entries.length :=
    List.countP_le_length
  rw [ht, addAll_eq]
  -- both counts start at zero
  simp only [Nat.zero_add]
  exact ⟨hfailed, hlength⟩

/-- Results are entries up to the end or to a faulty line. -/
theorem exists_entries_append (xs : List (Except FormatError Entry)) :
    ∃ (entries : List Entry) (rest : List (Except FormatError Entry)),
      xs = entries.map .ok ++ rest ∧
        (rest = [] ∨ ∃ fault below, rest = .error fault :: below) := by
  induction xs with
  | nil => exact ⟨[], [], rfl, .inl rfl⟩
  | cons x xs ih =>
    cases x with
    | error fault => exact ⟨[], _, rfl, .inr ⟨fault, xs, rfl⟩⟩
    | ok e =>
      obtain ⟨entries, rest, rfl, hrest⟩ := ih
      exact ⟨e :: entries, rest, rfl, hrest⟩

theorem RunError.toList_message_noTests (file : List Char) :
    (RunError.noTests.message file).toList = "no tests in ".toList ++ file := by
  show ("no tests in " ++ String.ofList file).toList = _
  simp

theorem RunError.toList_message_failed (file : List Char) (n : Nat) :
    ((RunError.failed n).message file).toList
      = "failed ".toList ++ decimal n ++ " tests".toList := by
  show ("failed " ++ Nat.repr n ++ " tests").toList = _
  simp [decimal]

/-- What a run returns, as text: `entries` have been checked, and `rest` of the results has not. -/
inductive Concluded (file : List Char) (render : Renderer) (entries : List Entry) :
    List (Except FormatError Entry) → Except (List Char) Unit → Prop
  | faulty (fault : FormatError) (below : List (Except FormatError Entry)) :
    Concluded file render entries (.error fault :: below)
      (.error ("error: ".toList ++ fault.fault.message.toList ++ ", ".toList ++ file ++ ':' ::
        decimal fault.line))
  | noTests (none : entries = []) :
    Concluded file render entries [] (.error ("no tests in ".toList ++ file))
  | passed (some : entries ≠ []) (all : ∀ e ∈ entries, Passes render e) :
    Concluded file render entries [] (.ok ())
  | failed (some : entries.filter (fun e => ¬ Passes render e) ≠ []) :
    Concluded file render entries []
      (.error ("failed ".toList ++ decimal (entries.filter fun e => ¬ Passes render e).length
        ++ " tests".toList))

/-- The outcome of a tally that has all entries of a file in it. -/
theorem concluded_outcome (hcount : t.count = entries.length)
    (hfailed : t.failed = (entries.filter fun e => ¬ Passes render e).length)
    (file : List Char) :
    Concluded file render entries [] (t.outcome.mapError fun err => (err.message file).toList) := by
  unfold Tally.outcome
  split
  · next hzero =>
    show Concluded file render entries [] (.error (RunError.noTests.message file).toList)
    rw [RunError.toList_message_noTests]
    exact .noTests (List.length_eq_zero_iff.mp (hcount.symm.trans hzero))
  · next hcounted =>
    split
    · next hzero =>
      have hall : entries.filter (fun e => ¬ Passes render e) = [] :=
        List.length_eq_zero_iff.mp (hfailed.symm.trans hzero)
      refine .passed ?_ (by simpa [List.filter_eq_nil_iff] using hall)
      rintro rfl
      exact hcounted hcount
    · next hfailing =>
      show Concluded file render entries []
        (.error ((RunError.failed t.failed).message file).toList)
      rw [RunError.toList_message_failed, hfailed]
      exact .failed fun hnil => hfailing (by rw [hfailed, hnil]; rfl)

/-- A run returns no error exactly if it is at the end of the file and all entries pass. -/
theorem Concluded.ok_iff {x : Except (List Char) Unit} (h : Concluded file render entries rest x) :
    x = .ok () ↔ rest = [] ∧ entries ≠ [] ∧ ∀ e ∈ entries, Passes render e := by
  cases h with
  | faulty fault below => simp
  | noTests none => simp [none]
  | passed some all => exact ⟨fun _ => ⟨rfl, some, all⟩, fun _ => rfl⟩
  | failed some => simp_all [List.filter_eq_nil_iff]

/-- A run over a file without faulty lines checks all of its entries. -/
theorem Concluded.eq_of_map_append {x : Except (List Char) Unit} {all : List Entry}
    (h : Concluded file render entries rest x) (heq : all.map .ok = entries.map .ok ++ rest) :
    entries = all ∧ rest = [] := by
  have hinj : Function.Injective (Except.ok : Entry → Except FormatError Entry) :=
    fun _ _ => Except.ok.inj
  have hend : rest = [] := by
    cases h with
    | faulty fault below =>
      have hmem : .error fault ∈ all.map (Except.ok : Entry → Except FormatError Entry) := by
        rw [heq]
        exact List.mem_append_right _ List.mem_cons_self
      obtain ⟨e, -, he⟩ := List.mem_map.mp hmem
      cases he
    | _ => rfl
  rw [hend, List.append_nil] at heq
  exact ⟨(List.map_injective_iff.mpr hinj heq).symm, hend⟩

theorem mapError_eq_ok_iff {α β : Type} {f : α → β} {x : Except α Unit} :
    x.mapError f = .ok () ↔ x = .ok () := by
  cases x <;> simp [Except.mapError]

/-- The entries above the end or the first faulty line get the verdicts that they deserve. -/
theorem deserves_of_results (hrender : Separable render)
    (h : results src = entries.map .ok ++ rest) :
    ∀ e ∈ entries, Deserves render e (Verdict.ofEntry render e) := by
  intro e he
  have hmem : .ok e ∈ results src := by
    rw [h]
    exact List.mem_append_left _ (List.mem_map_of_mem he)
  exact deserves_ofEntry hrender (fields_of_mem_results hmem)

theorem countP_isFailure (h : ∀ e ∈ entries, Deserves render e (Verdict.ofEntry render e)) :
    (entries.countP fun e => (Verdict.ofEntry render e).isFailure)
      = (entries.filter fun e => ¬ Passes render e).length := by
  rw [List.countP_eq_length_filter]
  exact congrArg _ (List.filter_congr fun e he => (h e he).isFailure_eq)

/-- A run has all entries in its tally when it ends or meets a faulty line. -/
theorem exists_run_eq (file : List Char) (render : Renderer)
    (h : results src = entries.map .ok ++ rest) :
    ∃ r : Reader, r.remaining = rest ∧
      run file render src = checkFrom file render (({} : Tally).addAll file render entries) r :=
  exists_checkFrom_eq h

/-- What the run reports on the entries, and what it returns. -/
theorem run_concluded (hrender : Separable render) (file : List Char)
    (h : results src = entries.map .ok ++ rest)
    (hrest : rest = [] ∨ ∃ fault below, rest = .error fault :: below) :
    (run file render src).2
        = (entries.map fun e => (Verdict.ofEntry render e).report file e).flatten ∧
      Concluded file render entries rest
        ((run file render src).1.mapError fun err => (err.message file).toList) := by
  obtain ⟨r, hr, hrun⟩ := exists_run_eq file render h
  rw [addAll_eq, countP_isFailure (deserves_of_results hrender h)] at hrun
  rcases hrest with rfl | ⟨fault, below, rfl⟩
  · rw [hrun, checkFrom_eq_of_nil hr]
    exact ⟨List.nil_append _, concluded_outcome (Nat.zero_add _) (Nat.zero_add _) file⟩
  · rw [hrun, checkFrom_eq_of_error hr]
    refine ⟨List.nil_append _, ?_⟩
    show Concluded file render entries _ (.error (fault.message file).toList)
    rw [FormatError.toList_message]
    exact .faulty fault below

/-- **The verdict of a run is exact.** The entries of a file up to its end or to its first faulty
line are checked. The report has a part for each of them, in order, which is empty for those that
pass. A faulty line makes the run return its error. Otherwise the run returns an error if there are
no entries or some fail, with their number. -/
theorem run_exact (hrender : Separable render) (file src : List Char) :
    ∃ entries rest parts,
      results src = entries.map .ok ++ rest ∧
        (run file render src).2 = parts.flatten ∧
        List.Forall₂ (Reported file render) entries parts ∧
        Concluded file render entries rest
          ((run file render src).1.mapError fun err => (err.message file).toList) ∧
        ((run file render src).1 = .ok () ↔
          rest = [] ∧ entries ≠ [] ∧ ∀ e ∈ entries, Passes render e) := by
  obtain ⟨entries, rest, hresults, hrest⟩ := exists_entries_append (results src)
  obtain ⟨hreport, hconcluded⟩ := run_concluded hrender file hresults hrest
  refine ⟨entries, rest, _, hresults, hreport, ?_, hconcluded, ?_⟩
  · rw [List.forall₂_map_right_iff, List.forall₂_same]
    exact fun e he => (deserves_of_results hrender hresults e he).reported file
  · rw [← hconcluded.ok_iff, mapError_eq_ok_iff]

/-- Renders every entry with the same two fields, the second of them empty. -/
def pairRenderer : Renderer := fun _ => .ok ["a b".toList, []]

/-- Blanks inside and around a field do not count, but a bar too few does. -/
theorem run_exact_pair :
    Separable pairRenderer ∧
      (run "f".toList pairRenderer "x: a \t b |".toList).1 = .ok () ∧
      (run "f".toList pairRenderer "x: a b".toList).1 ≠ .ok () := by
  have hrender : Separable pairRenderer := by
    intro e fields h
    cases h
    decide
  refine ⟨hrender, ?_, ?_⟩
  · obtain ⟨entries, rest, _, hresults, -, -, hconcluded, hok⟩ :=
      run_exact hrender "f".toList "x: a \t b |".toList
    have hfile : [(⟨1, ['x'], ["a \t b".toList, []], []⟩ : Entry)].map .ok
        = results "x: a \t b |".toList := by decide
    obtain ⟨rfl, rfl⟩ := hconcluded.eq_of_map_append (hfile.trans hresults)
    exact hok.mpr ⟨rfl, by simp, by decide⟩
  · obtain ⟨entries, rest, _, hresults, -, -, hconcluded, hok⟩ :=
      run_exact hrender "f".toList "x: a b".toList
    have hfile : [(⟨1, ['x'], ["a b".toList], []⟩ : Entry)].map .ok
        = results "x: a b".toList := by decide
    obtain ⟨rfl, rfl⟩ := hconcluded.eq_of_map_append (hfile.trans hresults)
    exact fun hpass => absurd (hok.mp hpass).2.2 (by decide)

end OpcodeForms.Expectation
