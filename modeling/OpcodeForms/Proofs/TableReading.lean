import OpcodeForms.Proofs.LineEnds
import OpcodeForms.Proofs.Tables

/-!
# Which tables are accepted

`Table.IsTable` says when a list of entries makes a table: each of them is read into a record, no
two names are alike, and the order is that of a table. `Table.FirstFault` says which line of a
text is the first one with a fault.

A text is accepted exactly if its entries make a table, and its first faulty line is blamed if
there is one (`Table.read_spec`). Reading carries a set of names along. It is the set of the names
of the records before (`Table.Knows`), and nothing else is said of it.
-/

namespace OpcodeForms

namespace Table

/-! ## Entries -/

/-- The entry of a line: the line without its comment and the blanks around what is left. -/
def entryOf (line : List Char) : List Char :=
  Text.trim (Text.before '#' line)

/-- The entries of lines: what is left of each, if anything is. -/
def entriesOf (lines : List (List Char)) : List (List Char) :=
  (lines.map entryOf).filter fun entry => !entry.isEmpty

/-- The record of a line, if it has an entry that is read into one. -/
def recordOf? (line : List Char) : Option Record :=
  (Record.read (entryOf line)).toOption

/-- The two names differ in more than case. -/
def Differ (r r' : Record) : Prop :=
  Text.eqIgnoringCase r.name r'.name = false

/-- The entries make a table of these records. -/
structure IsTable (entries : List (List Char)) (rs : List Record) : Prop where
  accepted : List.Forall₂ (fun entry r => Record.read entry = .ok r) entries rs
  names : rs.Pairwise Differ
  first : rs.head?.map Record.name = some "INVALID".toList
  /-- There is a `DeclareByte`, and from there on all are data declarations. -/
  declarations : ∃ instructions declareByte others,
    rs = instructions ++ declareByte :: others ∧ declareByte.name = "DeclareByte".toList ∧
      ∀ r ∈ declareByte :: others, "Declare".toList <+: r.name
  count : entries.length ≤ 65535

/-- What is wrong with a line after lines with the records `earlier`. -/
inductive Faulty (earlier : List Record) (line : List Char) : LineError → Prop
  /-- Its entry is rejected. -/
  | record (e : RecordError) (entry : entryOf line ≠ [])
      (rejected : Record.read (entryOf line) = .error e) : Faulty earlier line (.record e)
  /-- Its name is that of an earlier entry, up to case. -/
  | duplicateName (r r' : Record) (accepted : Record.read (entryOf line) = .ok r)
      (mem : r' ∈ earlier) (alike : Text.eqIgnoringCase r'.name r.name = true) :
      Faulty earlier line (.duplicateName r.name)

/-- Line `k` is faulty, after lines with the records `earlier` and the lines before it. -/
def FaultAt (earlier : List Record) (lines : List (List Char)) (k : Nat) (e : LineError) : Prop :=
  ∃ line, lines[k]? = some line ∧ Faulty (earlier ++ (lines.take k).filterMap recordOf?) line e

/-- Line `k` is the first that is faulty. -/
def FirstFault (earlier : List Record) (lines : List (List Char)) (k : Nat) (e : LineError) :
    Prop :=
  FaultAt earlier lines k e ∧ ∀ j < k, ∀ e', ¬ FaultAt earlier lines j e'

variable {earlier rs : List Record} {line : List Char} {ls : List (List Char)} {e e' : LineError}
  {k n : Nat}

theorem read_nil : Record.read [] = .error .missingName := by
  rfl

theorem entry_ne_nil {r : Record} (h : Record.read (entryOf line) = .ok r) : entryOf line ≠ [] := by
  intro hnil
  rw [hnil, read_nil] at h
  cases h

theorem Faulty.unique (h : Faulty earlier line e) (h' : Faulty earlier line e') : e = e' := by
  cases h with
  | record e _ hrejected =>
    cases h' with
    | record e' _ hrejected' =>
      rw [hrejected] at hrejected'
      cases hrejected'
      rfl
    | duplicateName _ _ haccepted =>
      rw [hrejected] at haccepted
      cases haccepted
  | duplicateName r _ haccepted =>
    cases h' with
    | record _ _ hrejected =>
      rw [haccepted] at hrejected
      cases hrejected
    | duplicateName _ _ haccepted' =>
      rw [haccepted] at haccepted'
      cases haccepted'
      rfl

/-- There is at most one first fault. -/
theorem FirstFault.unique {j : Nat} (h : FirstFault earlier ls k e)
    (h' : FirstFault earlier ls j e') : k = j ∧ e = e' := by
  have hkj : k = j := by
    apply Nat.le_antisymm
    · exact Nat.le_of_not_lt fun hlt => h.2 j hlt e' h'.1
    · exact Nat.le_of_not_lt fun hlt => h'.2 k hlt e h.1
  subst hkj
  obtain ⟨line, hline, hfault⟩ := h.1
  obtain ⟨line', hline', hfault'⟩ := h'.1
  rw [hline] at hline'
  cases hline'
  exact ⟨rfl, hfault.unique hfault'⟩

/-! ## One line after the other -/

theorem faultAt_zero : FaultAt earlier (line :: ls) 0 e ↔ Faulty earlier line e := by
  simp [FaultAt]

theorem faultAt_succ :
    FaultAt earlier (line :: ls) (k + 1) e
      ↔ FaultAt (earlier ++ (recordOf? line).toList) ls k e := by
  unfold FaultAt
  have hrecords : (line :: ls.take k).filterMap recordOf?
      = (recordOf? line).toList ++ (ls.take k).filterMap recordOf? := by
    cases h : recordOf? line <;> simp [h]
  rw [List.getElem?_cons_succ, List.take_succ_cons, hrecords, List.append_assoc]

theorem firstFault_zero (h : Faulty earlier line e) : FirstFault earlier (line :: ls) 0 e :=
  ⟨faultAt_zero.mpr h, fun _ hlt => absurd hlt (Nat.not_lt_zero _)⟩

theorem firstFault_succ (hline : ∀ e, ¬ Faulty earlier line e)
    (h : FirstFault (earlier ++ (recordOf? line).toList) ls k e) :
    FirstFault earlier (line :: ls) (k + 1) e := by
  refine ⟨faultAt_succ.mpr h.1, fun j hj e' => ?_⟩
  cases j with
  | zero => exact fun hfault => hline e' (faultAt_zero.mp hfault)
  | succ j => exact fun hfault => h.2 j (Nat.lt_of_succ_lt_succ hj) e' (faultAt_succ.mp hfault)

theorem not_faultAt_cons (hline : ∀ e, ¬ Faulty earlier line e)
    (h : ∀ k e, ¬ FaultAt (earlier ++ (recordOf? line).toList) ls k e) (k : Nat) (e : LineError) :
    ¬ FaultAt earlier (line :: ls) k e := by
  cases k with
  | zero => exact fun hfault => hline e (faultAt_zero.mp hfault)
  | succ k => exact fun hfault => h k e (faultAt_succ.mp hfault)

/-- What reading lines comes to, after lines with the records `earlier`. The first line has the
number `n`. -/
inductive Outcome (earlier : List Record) (n : Nat) (lines : List (List Char)) :
    Except TableError (List Record) → Prop
  | faulty (k : Nat) (e : LineError) (first : FirstFault earlier lines k e) :
      Outcome earlier n lines (.error (.line (n + k) e))
  | clean (faultless : ∀ k e, ¬ FaultAt earlier lines k e) :
      Outcome earlier n lines (.ok (earlier ++ lines.filterMap recordOf?))

variable {names : Std.TreeSet (List Char)} {done : List Record} {r : Record}
  {result : Except TableError (List Record)}

/-- A line without a fault adds its record, if it has one. -/
theorem Outcome.cons (hline : ∀ e, ¬ Faulty earlier line e)
    (h : Outcome (earlier ++ (recordOf? line).toList) (n + 1) ls result) :
    Outcome earlier n (line :: ls) result := by
  cases h with
  | faulty k e hfirst =>
    rw [Nat.add_assoc, Nat.add_comm 1 k]
    exact .faulty (k + 1) e (firstFault_succ hline hfirst)
  | clean hfaultless =>
    have hrecords : earlier ++ (line :: ls).filterMap recordOf?
        = earlier ++ (recordOf? line).toList ++ ls.filterMap recordOf? := by
      cases h : recordOf? line <;> simp [h]
    rw [← hrecords]
    exact .clean (not_faultAt_cons hline hfaultless)

/-- The set holds the constant names of the records, and no others. -/
structure Knows (names : Std.TreeSet (List Char)) (rs : List Record) : Prop where
  named : ∀ r ∈ rs, Record.isName r.name = true
  contains (name : List Char) : names.contains name = true ↔ ∃ r ∈ rs, r.constName = name

theorem knows_empty : Knows ∅ [] where
  named := by simp
  contains name := by simp

theorem Knows.insert (h : Knows names done) (hname : Record.isName r.name = true) :
    Knows (names.insert r.constName) (r :: done) where
  named := List.forall_mem_cons.mpr ⟨hname, h.named⟩
  contains name := by
    rw [Std.TreeSet.contains_insert, Bool.or_eq_true, h.contains name, beq_iff_eq,
      Std.LawfulEqCmp.compare_eq_iff_eq]
    simp only [List.mem_cons, exists_eq_or_imp]

/-- The name of a record is known if an earlier record has it, up to case. -/
theorem Knows.contains_iff (h : Knows names done) (hname : Record.isName r.name = true) :
    names.contains r.constName = true
      ↔ ∃ r' ∈ done, Text.eqIgnoringCase r'.name r.name = true := by
  rw [h.contains r.constName]
  refine exists_congr fun r' => and_congr_right fun hr' => ?_
  exact Text.upper_eq_iff (Record.isAscii_of_isName (h.named r' hr'))
    (Record.isAscii_of_isName hname)

/-- The entries of lines with their numbers, from `n` on. -/
def numberedEntries (n : Nat) (lines : List (List Char)) : List (List Char × Nat) :=
  ((lines.zipIdx n).map fun line => (entryOf line.1, line.2)).filter fun entry =>
    !entry.1.isEmpty

theorem entries_eq (src : List Char) : entries src = numberedEntries 1 (Text.lines src) := rfl

theorem numberedEntries_of_nil (h : entryOf line = []) :
    numberedEntries n (line :: ls) = numberedEntries (n + 1) ls := by
  simp [numberedEntries, h]

theorem numberedEntries_of_ne (h : entryOf line ≠ []) :
    numberedEntries n (line :: ls) = (entryOf line, n) :: numberedEntries (n + 1) ls := by
  simp [numberedEntries, h]

theorem not_faulty_of_nil (h : entryOf line = []) (e : LineError) : ¬ Faulty earlier line e := by
  intro hfaulty
  cases hfaulty with
  | record _ hentry => exact hentry h
  | duplicateName _ _ haccepted => exact entry_ne_nil haccepted h

theorem not_faulty_of_new (hread : Record.read (entryOf line) = .ok r)
    (hnew : ∀ r' ∈ earlier, Differ r' r) (e : LineError) : ¬ Faulty earlier line e := by
  intro hfaulty
  cases hfaulty with
  | record _ _ hrejected =>
    rw [hread] at hrejected
    cases hrejected
  | duplicateName r₁ r' haccepted hmem halike =>
    rw [hread] at haccepted
    cases haccepted
    exact absurd halike (Bool.eq_false_iff.mp (hnew r' hmem))

theorem recordOf?_eq (hread : Record.read (entryOf line) = .ok r) : recordOf? line = some r := by
  rw [recordOf?, hread]
  rfl

theorem recordOf?_of_nil (h : entryOf line = []) : recordOf? line = none := by
  rw [recordOf?, h, read_nil]
  rfl

/-- **Reading the entries of lines stops at the first faulty line.** -/
theorem readEntries_outcome (ls : List (List Char)) (h : Knows names done) (n : Nat) :
    Outcome done.reverse n ls (readEntries names done (numberedEntries n ls)) := by
  induction ls generalizing names done n with
  | nil =>
    have hclean : Outcome done.reverse n [] (.ok (done.reverse ++ [].filterMap recordOf?)) := by
      refine .clean ?_
      rintro k e ⟨line, hline, -⟩
      cases hline
    rwa [List.filterMap_nil, List.append_nil] at hclean
  | cons line ls ih =>
    by_cases hentry : entryOf line = []
    · rw [numberedEntries_of_nil hentry]
      refine .cons (not_faulty_of_nil hentry) ?_
      rw [recordOf?_of_nil hentry, Option.toList_none, List.append_nil]
      exact ih h (n + 1)
    · rw [numberedEntries_of_ne hentry, readEntries]
      cases hread : Record.read (entryOf line) with
      | error e => exact .faulty 0 _ (firstFault_zero (.record e hentry hread))
      | ok r =>
        have hname := Record.isName_of_read hread
        by_cases hknown : names.contains r.constName = true
        · obtain ⟨r', hmem, halike⟩ := (h.contains_iff hname).mp hknown
          dsimp only
          rw [if_pos hknown]
          exact .faulty 0 _
            (firstFault_zero (.duplicateName r r' hread (List.mem_reverse.mpr hmem) halike))
        · have hnew : ∀ r' ∈ done.reverse, Differ r' r := by
            intro r' hmem
            refine Bool.eq_false_iff.mpr fun halike => hknown ?_
            exact (h.contains_iff hname).mpr ⟨r', List.mem_reverse.mp hmem, halike⟩
          dsimp only
          rw [if_neg hknown]
          refine .cons (not_faulty_of_new hread hnew) ?_
          rw [recordOf?_eq hread, Option.toList_some, ← List.reverse_cons]
          exact ih (h.insert hname) (n + 1)

/-! ## Lines without a fault -/

theorem entriesOf_of_nil (h : entryOf line = []) : entriesOf (line :: ls) = entriesOf ls := by
  simp [entriesOf, h]

theorem entriesOf_of_ne (h : entryOf line ≠ []) :
    entriesOf (line :: ls) = entryOf line :: entriesOf ls := by
  simp [entriesOf, h]

/-- A line without a fault has no entry, or one with a new record. -/
theorem cases_of_not_faulty (hline : ∀ e, ¬ Faulty earlier line e) :
    entryOf line = [] ∨
      ∃ r, Record.read (entryOf line) = .ok r ∧ ∀ r' ∈ earlier, Differ r' r := by
  by_cases hentry : entryOf line = []
  · exact .inl hentry
  · cases hread : Record.read (entryOf line) with
    | error e => exact absurd (.record e hentry hread) (hline _)
    | ok r =>
      refine .inr ⟨r, rfl, fun r' hmem => Bool.eq_false_iff.mpr fun halike => ?_⟩
      exact hline _ (.duplicateName r r' hread hmem halike)

/-- The entries of lines without a fault are all accepted, and no two names are alike. -/
theorem accepted_of_faultless (h : ∀ k e, ¬ FaultAt earlier ls k e)
    (hearlier : earlier.Pairwise Differ) :
    List.Forall₂ (fun entry r => Record.read entry = .ok r) (entriesOf ls)
        (ls.filterMap recordOf?) ∧
      (earlier ++ ls.filterMap recordOf?).Pairwise Differ := by
  induction ls generalizing earlier with
  | nil => exact ⟨.nil, by simpa using hearlier⟩
  | cons line ls ih =>
    have hline : ∀ e, ¬ Faulty earlier line e := fun e hfaulty => h 0 e (faultAt_zero.mpr hfaulty)
    have hrest : ∀ k e, ¬ FaultAt (earlier ++ (recordOf? line).toList) ls k e :=
      fun k e hfault => h (k + 1) e (faultAt_succ.mpr hfault)
    rcases cases_of_not_faulty hline with hentry | ⟨r, hread, hnew⟩
    · rw [recordOf?_of_nil hentry, Option.toList_none, List.append_nil] at hrest
      rw [entriesOf_of_nil hentry, List.filterMap_cons_none (recordOf?_of_nil hentry)]
      exact ih hrest hearlier
    · rw [recordOf?_eq hread, Option.toList_some] at hrest
      rw [entriesOf_of_ne (entry_ne_nil hread), List.filterMap_cons_some (recordOf?_eq hread)]
      have hsnoc : (earlier ++ [r]).Pairwise Differ := by
        refine List.pairwise_append.mpr ⟨hearlier, List.pairwise_singleton _ _, ?_⟩
        intro r' hmem _ hr
        rw [List.mem_singleton.mp hr]
        exact hnew r' hmem
      obtain ⟨haccepted, hnames⟩ := ih hrest hsnoc
      rw [List.append_assoc] at hnames
      exact ⟨.cons hread haccepted, hnames⟩

/-- Lines whose entries are accepted with names that differ have no fault. -/
theorem faultless_of_accepted
    (h : List.Forall₂ (fun entry r => Record.read entry = .ok r) (entriesOf ls) rs)
    (hnames : (earlier ++ rs).Pairwise Differ) :
    (∀ k e, ¬ FaultAt earlier ls k e) ∧ rs = ls.filterMap recordOf? := by
  induction ls generalizing earlier rs with
  | nil =>
    refine ⟨?_, List.forall₂_nil_left_iff.mp h⟩
    rintro k e ⟨line, hline, -⟩
    cases hline
  | cons line ls ih =>
    by_cases hentry : entryOf line = []
    · rw [entriesOf_of_nil hentry] at h
      rw [List.filterMap_cons_none (recordOf?_of_nil hentry)]
      obtain ⟨hrest, hrecords⟩ := ih h hnames
      refine ⟨not_faultAt_cons (not_faulty_of_nil hentry) ?_, hrecords⟩
      rwa [recordOf?_of_nil hentry, Option.toList_none, List.append_nil]
    · rw [entriesOf_of_ne hentry] at h
      obtain ⟨r, rs, hread, hrs, rfl⟩ := List.forall₂_cons_left_iff.mp h
      rw [List.filterMap_cons_some (recordOf?_eq hread)]
      have hnew : ∀ r' ∈ earlier, Differ r' r := fun r' hmem =>
        (List.pairwise_append.mp hnames).2.2 r' hmem r List.mem_cons_self
      rw [List.append_cons] at hnames
      obtain ⟨hrest, hrecords⟩ := ih hrs hnames
      refine ⟨not_faultAt_cons (not_faulty_of_new hread hnew) ?_, congrArg _ hrecords⟩
      rwa [recordOf?_eq hread, Option.toList_some]

/-! ## The order of the records -/

theorem checkOrder_eq_ok_iff :
    checkOrder rs = .ok () ↔
      rs.head?.map Record.name = some "INVALID".toList ∧ declarePos rs < rs.length ∧
        (∀ r ∈ rs.drop (declarePos rs), "Declare".toList <+: r.name) ∧ rs.length ≤ 65535 := by
  unfold checkOrder invalidName declareStem maxRecords
  by_cases hfirst : rs.head?.map Record.name = some "INVALID".toList
  · rw [if_neg fun h => bne_iff_ne.mp h hfirst]
    by_cases hpos : declarePos rs < rs.length
    · rw [if_neg (Nat.not_le.mpr hpos)]
      cases hfind :
        (rs.drop (declarePos rs)).find? fun r => !"Declare".toList.isPrefixOf r.name with
      | some r =>
        have hr : ¬ "Declare".toList <+: r.name := by
          intro hdeclare
          have hfound := List.find?_some hfind
          rw [List.isPrefixOf_iff_prefix.mpr hdeclare] at hfound
          cases hfound
        exact iff_of_false nofun fun h => hr (h.2.2.1 r (List.mem_of_find?_eq_some hfind))
      | none =>
        have hall : ∀ r ∈ rs.drop (declarePos rs), "Declare".toList <+: r.name := by
          intro r hr
          rw [← List.isPrefixOf_iff_prefix]
          simpa using List.find?_eq_none.mp hfind r hr
        by_cases hcount : rs.length ≤ 65535
        · dsimp only
          rw [if_neg (Nat.not_lt.mpr hcount)]
          exact iff_of_true rfl ⟨hfirst, hpos, hall, hcount⟩
        · dsimp only
          rw [if_pos (Nat.lt_of_not_le hcount)]
          exact iff_of_false nofun fun h => hcount h.2.2.2
    · rw [if_pos (Nat.le_of_not_lt hpos)]
      exact iff_of_false nofun fun h => hpos h.2.1
  · rw [if_pos (bne_iff_ne.mpr hfirst)]
    exact iff_of_false nofun fun h => hfirst h.1

/-- The position of the first data declaration is that of the first `DeclareByte`. -/
theorem declarePos_append {instructions others : List Record} {declareByte : Record}
    (hname : declareByte.name = "DeclareByte".toList)
    (hinstr : ∀ r ∈ instructions, r.name ≠ "DeclareByte".toList) :
    declarePos (instructions ++ declareByte :: others) = instructions.length := by
  have hnone : instructions.findIdx (fun r => r.name == declareByteName.toList)
      = instructions.length := by
    rw [List.findIdx_eq_length]
    intro r hr
    exact beq_false_of_ne (hinstr r hr)
  rw [declarePos, List.findIdx_append, hnone, if_neg (Nat.lt_irrefl _), List.findIdx_cons]
  simp [hname, declareByteName]

/-- Where no two names are alike, there is one position at most for `DeclareByte`. -/
theorem declarations_iff (hnames : rs.Pairwise Differ) :
    (∃ instructions declareByte others, rs = instructions ++ declareByte :: others ∧
      declareByte.name = "DeclareByte".toList ∧
        ∀ r ∈ declareByte :: others, "Declare".toList <+: r.name) ↔
      declarePos rs < rs.length ∧ ∀ r ∈ rs.drop (declarePos rs), "Declare".toList <+: r.name := by
  constructor
  · rintro ⟨instructions, declareByte, others, rfl, hname, hall⟩
    have hinstr : ∀ r ∈ instructions, r.name ≠ "DeclareByte".toList := by
      intro r hr heq
      have hdiffer : Differ r declareByte :=
        (List.pairwise_append.mp hnames).2.2 r hr declareByte List.mem_cons_self
      rw [Differ, heq, hname] at hdiffer
      exact absurd hdiffer (by decide)
    rw [declarePos_append hname hinstr, List.drop_left]
    exact ⟨by simp, hall⟩
  · rintro ⟨hpos, hall⟩
    have hname := List.findIdx_getElem (w := hpos)
    rw [List.drop_eq_getElem_cons hpos] at hall
    refine ⟨rs.take (declarePos rs), rs[declarePos rs], rs.drop (declarePos rs + 1), ?_, ?_, hall⟩
    · rw [← List.drop_eq_getElem_cons hpos, List.take_append_drop]
    · exact beq_iff_eq.mp hname

/-- A table is given by entries that are accepted, names that differ, and an order. -/
theorem isTable_iff {entries : List (List Char)} :
    IsTable entries rs ↔
      List.Forall₂ (fun entry r => Record.read entry = .ok r) entries rs ∧ rs.Pairwise Differ ∧
        checkOrder rs = .ok () := by
  constructor
  · intro h
    obtain ⟨hpos, hall⟩ := (declarations_iff h.names).mp h.declarations
    have hcount := h.accepted.length_eq ▸ h.count
    exact ⟨h.accepted, h.names, checkOrder_eq_ok_iff.mpr ⟨h.first, hpos, hall, hcount⟩⟩
  · rintro ⟨haccepted, hnames, horder⟩
    obtain ⟨hfirst, hpos, hall, hcount⟩ := checkOrder_eq_ok_iff.mp horder
    exact {
      accepted := haccepted
      names := hnames
      first := hfirst
      declarations := (declarations_iff hnames).mpr ⟨hpos, hall⟩
      count := haccepted.length_eq ▸ hcount }

/-! ## Reading a table -/

theorem read_outcome (src : List Char) :
    Outcome [] 1 (Text.lines src) (readEntries ∅ [] (entries src)) :=
  readEntries_outcome (Text.lines src) knows_empty 1

/-- **A text is accepted exactly if its entries make a table.** -/
theorem read_eq_ok_iff {src : List Char} :
    read src = .ok rs ↔ IsTable (entriesOf (Text.lines src)) rs := by
  rw [isTable_iff, read]
  generalize hres : readEntries ∅ [] (entries src) = result
  have houtcome := read_outcome src
  rw [hres] at houtcome
  cases houtcome with
  | faulty k e hfirst =>
    refine iff_of_false nofun ?_
    rintro ⟨haccepted, hnames, -⟩
    exact (faultless_of_accepted haccepted (show ([] ++ rs).Pairwise Differ from hnames)).1 k e
      hfirst.1
  | clean hfaultless =>
    obtain ⟨haccepted, hnames⟩ := accepted_of_faultless hfaultless .nil
    rw [List.nil_append] at hnames ⊢
    constructor
    · intro h
      dsimp only at h
      split at h
      · cases h
      · next horder =>
        cases h
        exact ⟨haccepted, hnames, horder⟩
    · rintro ⟨haccepted', hnames', horder⟩
      obtain ⟨-, rfl⟩ :=
        faultless_of_accepted haccepted' (show ([] ++ rs).Pairwise Differ from hnames')
      dsimp only
      rw [horder]

/-- **The line that is blamed is the first faulty one.** -/
theorem read_eq_line_iff {src : List Char} :
    read src = .error (.line n e) ↔ ∃ k, n = k + 1 ∧ FirstFault [] (Text.lines src) k e := by
  rw [read]
  generalize hres : readEntries ∅ [] (entries src) = result
  have houtcome := read_outcome src
  rw [hres] at houtcome
  cases houtcome with
  | faulty k e' hfirst =>
    simp only [Except.error.injEq, TableError.line.injEq]
    constructor
    · rintro ⟨rfl, rfl⟩
      exact ⟨k, Nat.add_comm 1 k, hfirst⟩
    · rintro ⟨j, rfl, hfirst'⟩
      obtain ⟨rfl, rfl⟩ := hfirst.unique hfirst'
      exact ⟨Nat.add_comm 1 k, rfl⟩
  | clean hfaultless =>
    refine iff_of_false ?_ ?_
    · dsimp only
      split <;> nofun
    · rintro ⟨k, -, hfirst⟩
      exact hfaultless k e hfirst.1

/-- Lines have a first fault or none at all. -/
theorem firstFault_or_faultless (src : List Char) :
    (∃ k e, FirstFault [] (Text.lines src) k e) ∨
      ∀ k e, ¬ FaultAt [] (Text.lines src) k e := by
  have houtcome := read_outcome src
  generalize readEntries ∅ [] (entries src) = result at houtcome
  cases houtcome with
  | faulty k e hfirst => exact .inl ⟨k, e, hfirst⟩
  | clean hfaultless => exact .inr hfaultless

/-- A table is blamed as a whole if no line of it is faulty. -/
theorem read_eq_order_iff {src : List Char} :
    (∃ e, read src = .error (.order e)) ↔
      (∀ k e, ¬ FaultAt [] (Text.lines src) k e) ∧
        ¬ ∃ rs, IsTable (entriesOf (Text.lines src)) rs := by
  constructor
  · rintro ⟨e, h⟩
    constructor
    · rcases firstFault_or_faultless src with ⟨k, e', hfirst⟩ | hfaultless
      · rw [read_eq_line_iff.mpr ⟨k, rfl, hfirst⟩] at h
        cases h
      · exact hfaultless
    · rintro ⟨rs, htable⟩
      rw [read_eq_ok_iff.mpr htable] at h
      cases h
  · rintro ⟨hfaultless, hnone⟩
    cases h : read src with
    | ok rs => exact absurd ⟨rs, read_eq_ok_iff.mp h⟩ hnone
    | error e =>
      cases e with
      | order e => exact ⟨e, rfl⟩
      | line n e =>
        obtain ⟨k, -, hfirst⟩ := read_eq_line_iff.mp h
        exact absurd hfirst.1 (hfaultless k e)

/-! ## What does not matter -/

/-- The entry of an entry is the entry itself. -/
theorem entryOf_entryOf (line : List Char) : entryOf (entryOf line) = entryOf line := by
  have hcomment : '#' ∉ entryOf line := fun h => Text.not_mem_before (Text.mem_of_mem_trim h)
  rw [entryOf, Text.before_of_not_mem hcomment, entryOf, Text.trim_trim]

/-- A carriage return at the end of a line is trimmed or belongs to the comment. -/
theorem entryOf_dropReturn (line : List Char) : entryOf (Text.dropReturn line) = entryOf line := by
  by_cases hreturn : line.getLast? = some '\r'
  · obtain ⟨l, rfl⟩ := List.getLast?_eq_some_iff.mp hreturn
    rw [Text.dropReturn_append_return]
    unfold entryOf
    by_cases hcomment : '#' ∈ l
    · rw [Text.before_append_of_mem hcomment]
    · have hcomment' : '#' ∉ l ++ ['\r'] := by
        simp [hcomment]
      rw [Text.before_of_not_mem hcomment, Text.before_of_not_mem hcomment',
        Text.trim_append_blank l (by decide)]
  · rw [Text.dropReturn, if_neg hreturn]

theorem numberedEntries_eq (n : Nat) (ls : List (List Char)) :
    numberedEntries n ls = ((ls.map entryOf).zipIdx n).filter fun entry => !entry.1.isEmpty := by
  rw [numberedEntries, List.zipIdx_map]
  rfl

/-- The entries of a table are the same with carriage returns and without. -/
theorem entries_withReturns (src : List Char) : entries (Text.withReturns src) = entries src := by
  rw [entries_eq, entries_eq, numberedEntries_eq, numberedEntries_eq,
    Text.map_lines_withReturns entryOf_dropReturn]

/-- The lines that are entries alone have these entries. -/
theorem entriesOf_lines_unlines (src : List Char) :
    entriesOf (Text.lines (Text.unlines (entriesOf (Text.lines src))))
      = entriesOf (Text.lines src) := by
  have hentry : ∀ entry ∈ entriesOf (Text.lines src), ∃ line ∈ Text.lines src,
      entryOf line = entry ∧ entry ≠ [] := by
    intro entry h
    obtain ⟨hmem, hne⟩ := List.mem_filter.mp h
    obtain ⟨line, hline, rfl⟩ := List.mem_map.mp hmem
    exact ⟨line, hline, rfl, by simpa using hne⟩
  rw [Text.lines_unlines]
  · have hmap : (entriesOf (Text.lines src)).map entryOf = entriesOf (Text.lines src) := by
      refine (List.map_congr_left fun entry h => ?_).trans (List.map_id _)
      obtain ⟨line, -, rfl, -⟩ := hentry entry h
      exact entryOf_entryOf line
    rw [entriesOf, hmap, List.filter_eq_self]
    intro entry h
    obtain ⟨-, -, -, hne⟩ := hentry entry h
    simpa using hne
  · intro entry h hfeed
    obtain ⟨line, hline, rfl, -⟩ := hentry entry h
    exact Text.not_mem_of_mem_lines hline (Text.mem_of_mem_before (Text.mem_of_mem_trim hfeed))
  · intro entry h hlast
    obtain ⟨line, -, rfl, -⟩ := hentry entry h
    exact absurd (Text.isBlank_getLast?_trim hlast) (by decide)

/-! ## The whole of it -/

/-- **A text is read exactly as its lines say.** It is accepted if its entries make a table; a
line is blamed if it is the first faulty one; and the table as a whole is blamed if there is
nothing wrong with a line. Comments, blank lines and the kind of the line ends make no
difference. -/
theorem read_spec (src : List Char) :
    (∀ rs, read src = .ok rs ↔ IsTable (entriesOf (Text.lines src)) rs) ∧
      (∀ n e, read src = .error (.line n e) ↔
        ∃ k, n = k + 1 ∧ FirstFault [] (Text.lines src) k e) ∧
      ((∃ e, read src = .error (.order e)) ↔
        (∀ k e, ¬ FaultAt [] (Text.lines src) k e) ∧
          ¬ ∃ rs, IsTable (entriesOf (Text.lines src)) rs) ∧
      (∀ rs, read (Text.unlines (entriesOf (Text.lines src))) = .ok rs ↔ read src = .ok rs) ∧
      read (Text.withReturns src) = read src := by
  refine ⟨fun rs => read_eq_ok_iff, fun n e => read_eq_line_iff, read_eq_order_iff, ?_, ?_⟩
  · intro rs
    rw [read_eq_ok_iff, read_eq_ok_iff, entriesOf_lines_unlines]
  · rw [read, read, entries_withReturns]

/-- Lines without an entry count. -/
example : read "# forms\r\nINVALID bad legacy op=0\r\n\r\ninvalid bad legacy op=0".toList
    = .error (.line 4 (.duplicateName "invalid".toList)) := by rfl

end Table

end OpcodeForms
