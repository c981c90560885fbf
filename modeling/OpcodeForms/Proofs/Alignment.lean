import OpcodeForms.Proofs.LineEnds
import OpcodeForms.Text.LineDiff

/-!
# Alignments show both sides

An alignment lists the elements of two lists. Those of the first list are read off it by
`Aligned.left?` and those of the second by `Aligned.right?`; a common element counts for both.

Whatever the lengths in its table are, `walk` uses up its first list (`filterMap_left?_walk`). A
common element is taken from the first list only, so that the second list is used up as well
hangs on the table: where two elements differ, the length for both lists is one of those without
either of them (`headD_nextRow`), and one of these is left out. So the table is followed down the
walk: a row less for the first list, an entry less in each row for the second (`map_tail_rows`).
-/

namespace OpcodeForms.Text

/-! ## The two sides -/

section Sides

variable {α : Type}

/-- The element of the first list, if there is one. -/
def Aligned.left? : Aligned α → Option α
  | left a | both a => some a
  | right _ => none

/-- The element of the second list, if there is one. -/
def Aligned.right? : Aligned α → Option α
  | right a | both a => some a
  | left _ => none

/-- Each element is one of the left side or of the right side. -/
theorem length_le_filterMap (as : List (Aligned α)) :
    as.length ≤ (as.filterMap Aligned.left?).length + (as.filterMap Aligned.right?).length := by
  induction as with
  | nil => exact Nat.zero_le _
  | cons a as ih =>
    cases a <;> simp only [List.filterMap_cons, Aligned.left?, Aligned.right?, List.length_cons] <;>
      omega

theorem filterMap_left?_both (xs : List α) :
    (xs.map Aligned.both).filterMap Aligned.left? = xs := by
  simp [Function.comp_def, Aligned.left?]

theorem filterMap_right?_both (xs : List α) :
    (xs.map Aligned.both).filterMap Aligned.right? = xs := by
  simp [Function.comp_def, Aligned.right?]

/-- **A walk shows all of the first list**, along whatever table. -/
theorem filterMap_left?_walk (xs ys : List α) (table : List (List Nat)) :
    (walk xs ys table).filterMap Aligned.left? = xs := by
  fun_induction walk xs ys table with
  | case1 ys => simp [Function.comp_def, Aligned.left?]
  | case2 xs => simp [Function.comp_def, Aligned.left?]
  | case3 x xs y ys table row hright ih => simpa [List.filterMap_cons, Aligned.left?] using ih
  | case4 x xs y ys table row hright hleft ih => simp [Aligned.left?, ih]
  | case5 x xs y ys table row hright hleft ih =>
    simpa [List.filterMap_cons, Aligned.left?] using ih

end Sides

/-! ## The table of lengths -/

section Alignment

variable {α : Type} [DecidableEq α] {x y : α} {xs ys : List α} {row : List Nat}
  {table : List (List Nat)}

/-- A row has an entry for each suffix. -/
theorem length_nextRow (x : α) (h : row.length = ys.length + 1) :
    (nextRow x ys row).length = ys.length + 1 := by
  induction ys generalizing row with
  | nil => rfl
  | cons y ys ih =>
    obtain ⟨n, m, below, rfl⟩ : ∃ n m below, row = n :: m :: below := by
      match row, h with
      | n :: m :: below, _ => exact ⟨n, m, below, rfl⟩
    rw [nextRow, List.length_cons, ih (by simpa using h), List.length_cons]

theorem length_headD_rows (xs ys : List α) : ((rows xs ys).headD []).length = ys.length + 1 := by
  induction xs with
  | nil => simp [rows]
  | cons x xs ih => exact length_nextRow x ih

/-- Without the first element of the list, the row is shorter by an entry. -/
theorem tail_nextRow (x y : α) (h : row.length = ys.length + 2) :
    (nextRow x (y :: ys) row).tail = nextRow x ys row.tail := by
  match row, h with
  | n :: m :: below, _ => rfl

/-- The first entry of a row, where its element and the first of the list differ. -/
theorem headD_nextRow (hxy : x ≠ y) (h : row.length = ys.length + 2) :
    (nextRow x (y :: ys) row).headD 0 = max (row.headD 0) ((nextRow x ys row.tail).headD 0) := by
  match row, h with
  | n :: m :: below, _ =>
    rw [nextRow, if_neg hxy]
    rfl

theorem headD_map_tail (table : List (List Nat)) :
    (table.map List.tail).headD [] = (table.headD []).tail := by
  cases table <;> rfl

/-- **Without the first element of the second list, all rows are shorter by an entry.** -/
theorem map_tail_rows (xs : List α) (y : α) (ys : List α) :
    (rows xs (y :: ys)).map List.tail = rows xs ys := by
  induction xs with
  | nil => simp [rows, List.replicate_succ]
  | cons x xs ih =>
    rw [rows, List.map_cons, ih, tail_nextRow x y (length_headD_rows xs (y :: ys)),
      ← headD_map_tail, ih, rows]

/-- Two elements with neither of which the lengths do without are the same. -/
theorem eq_of_headD_ne
    (hright : ((rows (x :: xs) (y :: ys)).headD []).headD 0
      ≠ ((rows (x :: xs) (y :: ys)).headD []).tail.headD 0)
    (hleft : ((rows (x :: xs) (y :: ys)).headD []).headD 0
      ≠ ((rows (x :: xs) (y :: ys)).tail.headD []).headD 0) : x = y := by
  refine Decidable.byContradiction fun hxy => ?_
  have hlength := length_headD_rows xs (y :: ys)
  have hmax : ((rows (x :: xs) (y :: ys)).headD []).headD 0
      = max (((rows xs (y :: ys)).headD []).headD 0)
        (((rows (x :: xs) (y :: ys)).headD []).tail.headD 0) := by
    rw [rows, List.headD_cons, headD_nextRow hxy hlength, tail_nextRow x y hlength]
  have hbelow : (rows (x :: xs) (y :: ys)).tail = rows xs (y :: ys) := rfl
  rw [hbelow] at hleft
  omega

/-! ## Walking along the table -/

/-- **A walk shows all of the second list**, along the table of the two lists. -/
theorem filterMap_right?_walk (h : table = rows xs ys) :
    (walk xs ys table).filterMap Aligned.right? = ys := by
  fun_induction walk xs ys table with
  | case1 ys => simp [Function.comp_def, Aligned.right?]
  | case2 xs => simp [Function.comp_def, Aligned.right?]
  | case3 x xs y ys table row hright ih =>
    have hrest : table.map List.tail = rows (x :: xs) ys := by rw [h, map_tail_rows]
    simpa [List.filterMap_cons, Aligned.right?, hrest] using ih
  | case4 x xs y ys table row hright hleft ih =>
    have hrest : table.tail = rows xs (y :: ys) := by rw [h]; rfl
    simpa [List.filterMap_cons, Aligned.right?] using ih hrest
  | case5 x xs y ys table row hright hleft ih =>
    have hrest : table.tail.map List.tail = rows xs ys := by
      rw [h]
      exact map_tail_rows xs y ys
    subst h
    -- This is the case of a common element, which is the one of the second list as well.
    have hxy : x = y := eq_of_headD_ne hright hleft
    simpa [List.filterMap_cons, Aligned.right?, hxy] using ih hrest

/-! ## Lists and texts -/

/-- What is taken off at the beginning stands in both lists. -/
theorem commonStart_eq {start xs' ys' : List α} (h : commonStart xs ys = (start, xs', ys')) :
    xs = start ++ xs' ∧ ys = start ++ ys' := by
  induction xs generalizing ys start with
  | nil =>
    cases h
    exact ⟨rfl, rfl⟩
  | cons x xs ih =>
    cases ys with
    | nil =>
      cases h
      exact ⟨rfl, rfl⟩
    | cons y ys =>
      rw [commonStart] at h
      split at h
      · next hxy =>
        rcases hrest : commonStart xs ys with ⟨start', xs'', ys''⟩
        rw [hrest] at h
        cases h
        obtain ⟨hxs, hys⟩ := ih hrest
        rw [hxs, hys, hxy]
        exact ⟨rfl, rfl⟩
      · cases h
        exact ⟨rfl, rfl⟩

/-- **The differences between two lists show all of both.** -/
theorem filterMap_listDiff (xs ys : List α) :
    (listDiff xs ys).filterMap Aligned.left? = xs ∧
      (listDiff xs ys).filterMap Aligned.right? = ys := by
  rcases hstart : commonStart xs ys with ⟨start, xs', ys'⟩
  rcases hstop : commonStart xs'.reverse ys'.reverse with ⟨stop, xs'', ys''⟩
  have hdiff : listDiff xs ys
      = start.map .both ++ (align xs'' ys'').reverse ++ stop.reverse.map .both := by
    simp only [listDiff, hstart, hstop]
  obtain ⟨hxs, hys⟩ := commonStart_eq hstart
  obtain ⟨hxs', hys'⟩ := commonStart_eq hstop
  rw [hdiff, hxs, hys, ← List.reverse_reverse xs', hxs', ← List.reverse_reverse ys', hys']
  simp only [List.filterMap_append, List.filterMap_reverse, filterMap_left?_both,
    filterMap_right?_both, align, filterMap_left?_walk, filterMap_right?_walk rfl,
    List.reverse_append, List.append_assoc, and_self]

end Alignment

/-! ## Texts -/

/-- The lines of the text, with an empty line after a line feed at the end. -/
def allLines (s : List Char) : List (List Char) :=
  lines s ++ if s.getLast? = some '\n' then [[]] else []

/-- A line is cut off at its end. Nothing after it is an empty line. -/
theorem allLines_append_cons {l : List Char} (h : '\n' ∉ l) (s : List Char) :
    allLines (l ++ '\n' :: s) = dropReturn l :: if s = [] then [[]] else allLines s := by
  rw [allLines, lines_append_cons h, List.getLast?_append]
  cases s with
  | nil => rfl
  | cons c s => simp [allLines, List.getLast?_cons]

theorem allLines_ne_nil {s : List Char} (h : s ≠ []) : allLines s ≠ [] := by
  induction s using lines_induction with
  | last l hl => simp [allLines, lines_of_not_mem hl, h]
  | cons l s hl _ => simp [allLines_append_cons hl]

theorem not_mem_of_mem_allLines {l s : List Char} (h : l ∈ allLines s) : '\n' ∉ l := by
  rcases List.mem_append.mp h with h | h
  · exact not_mem_of_mem_lines h
  · split at h
    · simp [List.mem_singleton.mp h]
    · cases h

/-- **A text without carriage returns is put together from its lines again.** -/
theorem intercalate_allLines {s : List Char} (h : '\r' ∉ s) :
    ['\n'].intercalate (allLines s) = s := by
  induction s using lines_induction with
  | last l hl =>
    have hlast : l.getLast? ≠ some '\n' := fun hl' => hl (List.mem_of_getLast? hl')
    rw [allLines, lines_of_not_mem hl, if_neg hlast, List.append_nil]
    split
    · next hnil => rw [hnil]; rfl
    · exact List.intercalate_singleton
  | cons l s hl ih =>
    obtain ⟨hreturn, hs⟩ : '\r' ∉ l ∧ '\r' ∉ s := by simpa using h
    have hkeep : dropReturn l = l := if_neg fun hl' => hreturn (List.mem_of_getLast? hl')
    rw [allLines_append_cons hl, hkeep]
    split
    · next hnil => rw [hnil]; simp [List.intercalate_cons_cons]
    · next hne =>
      rw [List.intercalate_cons_of_ne_nil (allLines_ne_nil hne), ih hs, List.append_assoc]
      rfl

theorem length_allLines_le (s : List Char) : (allLines s).length ≤ s.length + 1 := by
  rw [allLines, List.length_append]
  refine Nat.add_le_add (length_lines_le s) ?_
  split
  · exact Nat.le_refl 1
  · exact Nat.zero_le 1

/-- **The differences between two texts show all lines of both.** -/
theorem filterMap_lineDiff (s t : List Char) :
    (lineDiff s t).filterMap Aligned.left? = allLines s ∧
      (lineDiff s t).filterMap Aligned.right? = allLines t := by
  obtain ⟨hleft, hright⟩ := filterMap_listDiff (lines s) (lines t)
  simp only [lineDiff, finalBreaks, allLines, List.filterMap_append, hleft, hright]
  by_cases hs : s.getLast? = some '\n' <;> by_cases ht : t.getLast? = some '\n' <;>
    simp [hs, ht, Aligned.left?, Aligned.right?]

end OpcodeForms.Text
