import Mathlib.Data.List.DropRight
import OpcodeForms.Expectation.Difference
import OpcodeForms.Proofs.Alignment
import OpcodeForms.Proofs.JoinedFields
import OpcodeForms.Proofs.Literals

/-!
# What a difference shows

The lines of a difference are the fields of the expected and of the rendered text, those that are
common to both but once (`contents_differenceLines`). Fields that were joined are not lost when
they are put on lines of their own (`fieldLines_inj`), so texts that differ are shown to differ.

The numbers of the lines are another matter. A line that is expected bears the place of its field
among the expected ones (`numbered_expected`). A line that is only rendered is counted on from the
expected number of the last common line above it, so its number is the place of its field among the
rendered ones only if as many fields are expected as are rendered down to that line
(`number_of_rendered`).
-/

namespace OpcodeForms.Expectation

open Text

variable {c : Char} {s t : List Char}

/-! ## Fields on lines of their own -/

theorem mem_breakFields (h : c ∈ breakFields s) : c = '\n' ∨ c ∈ s := by
  fun_induction breakFields s with
  | case1 r ih => grind
  | case2 d r hd ih => grind
  | case3 => exact .inr h

theorem length_breakFields_le (s : List Char) : (breakFields s).length ≤ s.length := by
  fun_induction breakFields s with
  | case1 r ih => simp only [List.length_cons]; omega
  | case2 d r hd ih => exact Nat.succ_le_succ ih
  | case3 => exact Nat.le_refl 0

/-- The text with a separator for each line feed. -/
def unbreakFields (s : List Char) : List Char :=
  s.flatMap fun c => if c = '\n' then separator else [c]

/-- In a text without line feeds, separators are all that is broken. -/
theorem unbreakFields_breakFields (h : '\n' ∉ s) : unbreakFields (breakFields s) = s := by
  unfold unbreakFields
  fun_induction breakFields s with
  | case1 r ih =>
    have hr : '\n' ∉ r := fun hr => h (by simp [hr])
    rw [List.flatMap_cons, ih hr, if_pos rfl]
    rfl
  | case2 d r hd ih =>
    obtain ⟨hne, hr⟩ := List.ne_and_not_mem_of_not_mem_cons h
    rw [List.flatMap_cons, ih hr, if_neg (Ne.symm hne)]
    rfl
  | case3 => rfl

/-- The fields of a text as lines. -/
def fieldLines (s : List Char) : List (List Char) :=
  allLines (breakFields s)

theorem length_fieldLines_le (s : List Char) : (fieldLines s).length ≤ s.length + 1 :=
  Nat.le_trans (length_allLines_le _) (Nat.succ_le_succ (length_breakFields_le s))

/-- Texts without line ends are the same if their fields are. -/
theorem fieldLines_inj (hs : '\n' ∉ s ∧ '\r' ∉ s) (ht : '\n' ∉ t ∧ '\r' ∉ t)
    (h : fieldLines s = fieldLines t) : s = t := by
  have hreturn : ∀ {u : List Char}, '\r' ∉ u → '\r' ∉ breakFields u := by
    intro u hu hmem
    rcases mem_breakFields hmem with hbreak | hmem
    · exact absurd hbreak (by decide)
    · exact hu hmem
  calc s = unbreakFields (['\n'].intercalate (fieldLines s)) := by
        rw [fieldLines, intercalate_allLines (hreturn hs.2), unbreakFields_breakFields hs.1]
    _ = unbreakFields (['\n'].intercalate (fieldLines t)) := by rw [h]
    _ = t := by
        rw [fieldLines, intercalate_allLines (hreturn ht.2), unbreakFields_breakFields ht.1]

/-- Joined fields have no line ends. -/
theorem not_mem_joinFields (fields : List (List Char)) :
    '\n' ∉ joinFields fields ∧ '\r' ∉ joinFields fields := by
  have hblank : ∀ c, isBlank c = true → c ≠ ' ' → c ∉ joinFields fields := by
    intro c hc hspace h
    rcases mem_joinFields h with h | h | ⟨h, -⟩
    · exact hspace h
    · exact ne_bar_of_blank hc h
    · rw [hc] at h
      cases h
  exact ⟨hblank _ (by decide) (by decide), hblank _ (by decide) (by decide)⟩

/-! ## The fields on the lines -/

theorem Mark.sign_eq_plus_iff {m : Mark} : m.sign = '+' ↔ m = .rendered := by
  cases m <;> decide

theorem Mark.sign_of_ne_common {m : Mark} (h : m ≠ .common) : m.sign = '-' ∨ m.sign = '+' := by
  cases m with
  | expected => exact .inl rfl
  | rendered => exact .inr rfl
  | common => exact absurd rfl h

namespace DifferenceLine

variable {left right : Nat} {as : List (Aligned (List Char))} {l : DifferenceLine}
  {above below : List DifferenceLine}

/-- The line shows an expected field: it is marked with `-` or `|`. -/
def showsExpected (l : DifferenceLine) : Bool :=
  l.mark.sign = '-' || l.mark.sign = '|'

/-- The line shows a rendered field: it is marked with `+` or `|`. -/
def showsRendered (l : DifferenceLine) : Bool :=
  l.mark.sign = '+' || l.mark.sign = '|'

theorem showsExpected_iff : l.showsExpected = true ↔ l.mark ≠ .rendered := by
  rw [showsExpected]
  cases l.mark <;> decide

theorem showsRendered_iff : l.showsRendered = true ↔ l.mark ≠ .expected := by
  rw [showsRendered]
  cases l.mark <;> decide

/-- **The lines with expected fields show the left side, numbered from `left` on.** -/
theorem numbered_expected (left right : Nat) (as : List (Aligned (List Char))) :
    ((ofAligned left right as).filter showsExpected).map (fun l => (l.content, l.number))
      = (as.filterMap Aligned.left?).zipIdx left := by
  induction as generalizing left right with
  | nil => rfl
  | cons a as ih =>
    cases a <;> simp [ofAligned, showsExpected_iff, List.filterMap_cons, Aligned.left?,
      List.zipIdx_cons, ih]

/-- **The lines with rendered fields show the right side.** -/
theorem contents_rendered (left right : Nat) (as : List (Aligned (List Char))) :
    ((ofAligned left right as).filter showsRendered).map content
      = as.filterMap Aligned.right? := by
  induction as generalizing left right with
  | nil => rfl
  | cons a as ih =>
    cases a <;> simp [ofAligned, showsRendered_iff, List.filterMap_cons, Aligned.right?, ih]

/-- Numbers grow by one with a line at most. -/
theorem number_lt (h : l ∈ ofAligned left right as) :
    l.number < max left right + as.length := by
  induction as generalizing left right with
  | nil => cases h
  | cons a as ih =>
    rw [List.length_cons]
    -- a line has the number of one of the counters, and leaves both at most one higher
    cases a with
    | left s | both s | right s =>
      rcases List.mem_cons.mp h with rfl | h
      · simp only
        omega
      · have hlt := ih h
        omega

/-- A line is shown as one. -/
theorem not_mem_text (h : '\n' ∉ l.content) : '\n' ∉ l.text := by
  have hsign : l.mark.sign ≠ '\n' := by
    cases l.mark <;> decide
  have hnumber : '\n' ∉ padLeft ' ' 3 (decimal l.number) := by
    intro h
    rcases List.mem_append.mp h with h | h
    · exact absurd (List.eq_of_mem_replicate h) (by decide)
    · exact not_mem_decimal (by decide) h
  have hshown : '\n' ∉ shown l.content := by
    unfold shown
    split
    · decide
    · exact h
  simp [text, hnumber, hshown, hsign.symm]

/-! ## The numbers of rendered lines -/

/-- The number of the next line that is only rendered, after these lines. -/
def nextRendered (left right : Nat) : List DifferenceLine → Nat
  | [] => right
  | l :: ls =>
    match l.mark with
    | .expected => nextRendered (left + 1) right ls
    | .common => nextRendered (left + 1) (left + 1) ls
    | .rendered => nextRendered left (right + 1) ls

theorem number_eq_nextRendered (h : ofAligned left right as = above ++ l :: below)
    (hl : l.mark = .rendered) : l.number = nextRendered left right above := by
  induction above generalizing left right as with
  | nil =>
    cases as with
    | nil => cases h
    | cons a as =>
      cases a with
      | right s =>
        obtain ⟨rfl, -⟩ := List.cons.inj h
        rfl
      | left s | both s =>
        obtain ⟨rfl, -⟩ := List.cons.inj h
        cases hl
  | cons m above ih =>
    cases as with
    | nil => cases h
    | cons a as =>
      cases a with
      | left s | right s | both s =>
        obtain ⟨rfl, hrest⟩ := List.cons.inj h
        exact ih hrest

theorem nextRendered_append (left right : Nat) (front tail : List DifferenceLine) :
    nextRendered left right (front ++ tail)
      = nextRendered (left + front.countP showsExpected) (nextRendered left right front) tail := by
  induction front generalizing left right with
  | nil => rfl
  | cons l front ih =>
    rw [List.cons_append, nextRendered, nextRendered, List.countP_cons]
    cases hl : l.mark <;> simp [ih, showsExpected_iff, hl, Nat.add_assoc, Nat.add_comm 1]

/-- The lines down to the last common one. -/
def downToCommon (ls : List DifferenceLine) : List DifferenceLine :=
  ls.rdropWhile fun l => l.mark ≠ .common

theorem downToCommon_append_of_ne (h : l.mark ≠ .common) (ls : List DifferenceLine) :
    downToCommon (ls ++ [l]) = downToCommon ls :=
  List.rdropWhile_concat_pos _ _ _ (by simpa using h)

theorem downToCommon_append_of_eq (h : l.mark = .common) (ls : List DifferenceLine) :
    downToCommon (ls ++ [l]) = ls ++ [l] :=
  List.rdropWhile_concat_neg _ _ _ (by simpa using h)

/-- Since the last common line, whose number is that of an expected line, rendered lines are
counted. -/
theorem nextRendered_add (ls : List DifferenceLine) :
    nextRendered 0 0 ls + (downToCommon ls).countP showsRendered
      = ls.countP showsRendered + (downToCommon ls).countP showsExpected := by
  induction ls using List.reverseRecOn with
  | nil => rfl
  | append_singleton ls l ih =>
    rw [nextRendered_append, nextRendered]
    cases hl : l.mark with
    | expected =>
      -- Nothing that is counted changes.
      rw [downToCommon_append_of_ne (by simp [hl])]
      simpa [nextRendered, showsRendered_iff, hl] using ih
    | rendered =>
      have hcount : (ls ++ [l]).countP showsRendered = ls.countP showsRendered + 1 := by
        simp [showsRendered_iff, hl]
      rw [downToCommon_append_of_ne (by simp [hl]), hcount]
      simp only [nextRendered]
      omega
    | common =>
      -- The counter starts over from the expected lines, whatever it was.
      have hcount : (ls ++ [l]).countP showsExpected = ls.countP showsExpected + 1 := by
        simp [showsExpected_iff, hl]
      rw [downToCommon_append_of_eq hl, hcount]
      simp only [nextRendered]
      omega

/-- **The number of a line that is only rendered**: the fields expected down to the last common
line above it, and those rendered since. -/
theorem number_of_rendered (h : ofAligned 0 0 as = above ++ l :: below)
    (hl : l.mark = .rendered) :
    l.number + (downToCommon above).countP showsRendered
      = above.countP showsRendered + (downToCommon above).countP showsExpected := by
  rw [number_eq_nextRendered h hl]
  exact nextRendered_add above

end DifferenceLine

/-! ## Two texts -/

open DifferenceLine

variable {expected rendered : List Char} {l : DifferenceLine} {above below : List DifferenceLine}

theorem numbered_differenceLines (expected rendered : List Char) :
    ((differenceLines expected rendered).filter showsExpected).map (fun l => (l.content, l.number))
      = (fieldLines expected).zipIdx := by
  rw [differenceLines, numbered_expected, (filterMap_lineDiff _ _).1, fieldLines]

theorem contents_differenceLines (expected rendered : List Char) :
    ((differenceLines expected rendered).filter showsExpected).map content = fieldLines expected ∧
      ((differenceLines expected rendered).filter showsRendered).map content
        = fieldLines rendered := by
  constructor
  · have h := congrArg (List.map Prod.fst) (numbered_differenceLines expected rendered)
    rwa [List.map_map, List.zipIdx_map_fst] at h
  · rw [differenceLines, contents_rendered, (filterMap_lineDiff _ _).2, fieldLines]

/-- **The numbers of a difference stay below the length of its texts**, but for the two lines that
empty texts have. The counters go on by one after a line at most, so 32 bits, sign included, are
enough for them if the texts have less than 2³¹ - 2 characters together. -/
theorem number_lt_length (h : l ∈ differenceLines expected rendered) :
    l.number < expected.length + rendered.length + 2 := by
  obtain ⟨hexpected, hrendered⟩ := filterMap_lineDiff (breakFields expected) (breakFields rendered)
  have hlines := length_le_filterMap (lineDiff (breakFields expected) (breakFields rendered))
  rw [hexpected, hrendered] at hlines
  have hnumber := number_lt h
  have hleft := length_fieldLines_le expected
  have hright := length_fieldLines_le rendered
  unfold fieldLines at hleft hright
  omega

theorem not_mem_content (h : l ∈ differenceLines expected rendered) : '\n' ∉ l.content := by
  obtain ⟨hexpected, hrendered⟩ := contents_differenceLines expected rendered
  have hside : showsExpected l = true ∨ showsRendered l = true := by
    rw [showsExpected_iff, showsRendered_iff]
    cases l.mark <;> decide
  rcases hside with hl | hl
  · have hmem : l.content ∈ fieldLines expected := by
      rw [← hexpected]
      exact List.mem_map_of_mem (List.mem_filter.mpr ⟨h, hl⟩)
    exact not_mem_of_mem_allLines hmem
  · have hmem : l.content ∈ fieldLines rendered := by
      rw [← hrendered]
      exact List.mem_map_of_mem (List.mem_filter.mpr ⟨h, hl⟩)
    exact not_mem_of_mem_allLines hmem

/-- Where all lines are common, the fields are the same. -/
theorem fieldLines_eq_of_common (h : ∀ l ∈ differenceLines expected rendered, l.mark = .common) :
    fieldLines expected = fieldLines rendered := by
  obtain ⟨hexpected, hrendered⟩ := contents_differenceLines expected rendered
  have hall : ∀ l ∈ differenceLines expected rendered,
      showsExpected l = true ∧ showsRendered l = true := by
    intro l hl
    simp [showsExpected_iff, showsRendered_iff, h l hl]
  rw [← hexpected, ← hrendered, List.filter_eq_self.mpr fun l hl => (hall l hl).1,
    List.filter_eq_self.mpr fun l hl => (hall l hl).2]

/-- Joined fields that differ are shown to differ. -/
theorem exists_ne_common {fields others : List (List Char)}
    (h : joinFields fields ≠ joinFields others) :
    ∃ l ∈ differenceLines (joinFields fields) (joinFields others), l.mark ≠ .common := by
  refine Decidable.byContradiction fun hnone => h ?_
  have hcommon : ∀ l ∈ differenceLines (joinFields fields) (joinFields others),
      l.mark = .common := by
    intro l hl
    exact Decidable.byContradiction fun hmark => hnone ⟨l, hl, hmark⟩
  exact fieldLines_inj (not_mem_joinFields fields) (not_mem_joinFields others)
    (fieldLines_eq_of_common hcommon)

/-- The place of a rendered field is the number of rendered ones above it. -/
theorem getElem?_fieldLines (h : differenceLines expected rendered = above ++ l :: below)
    (hl : showsRendered l = true) :
    (fieldLines rendered)[above.countP showsRendered]? = some l.content := by
  rw [← (contents_differenceLines expected rendered).2, h, List.filter_append,
    List.filter_cons_of_pos hl, List.map_append, List.map_cons, List.countP_eq_length_filter,
    ← List.length_map content, List.getElem?_append_right le_rfl, Nat.sub_self]
  rfl

/-- **A difference shows both sides completely.** Under the place and the name it has one line of
text for each of its lines: the number, the sign, and the content or `<empty>`. The contents of
the lines marked with `-` or `|` are the fields of the expected text in order, and those of the
lines marked with `+` or `|` are the fields of the rendered text. So of two texts of joined fields
that differ, some field is marked with `-` or `+`. -/
theorem differenceText_shows_both (file name expected rendered : List Char) (line : Nat) :
    ∃ ls : List DifferenceLine,
      differenceText file line name expected rendered
          = unlines (("  --> ".toList ++ file ++ ':' :: decimal line)
            :: ("   = ".toList ++ name) :: ls.map text) ∧
        (∀ l ∈ ls, '\n' ∉ l.text ∧
          l.text = padLeft ' ' 3 (decimal l.number) ++ [' ', l.mark.sign, ' ']
            ++ if l.content = [] then "<empty>".toList else l.content) ∧
        (ls.filter showsExpected).map content = fieldLines expected ∧
        (ls.filter showsRendered).map content = fieldLines rendered ∧
        ∀ fields others : List (List Char), expected = joinFields fields →
          rendered = joinFields others → expected ≠ rendered →
            ∃ l ∈ ls, l.mark.sign = '-' ∨ l.mark.sign = '+' := by
  obtain ⟨hexpected, hrendered⟩ := contents_differenceLines expected rendered
  refine ⟨differenceLines expected rendered, rfl, ?_, hexpected, hrendered, ?_⟩
  · intro l hl
    refine ⟨not_mem_text (not_mem_content hl), ?_⟩
    rw [text, shown]
    simp only [List.isEmpty_iff]
  · rintro fields others rfl rfl hne
    obtain ⟨l, hl, hmark⟩ := exists_ne_common hne
    exact ⟨l, hl, Mark.sign_of_ne_common hmark⟩

/-- **The numbers of a difference.** A line marked with `-` or `|` has the place of its field in
the expected text. A line marked with `+` shows the next field of the rendered text, but is
numbered on from the last common line: its number is the place of its field if and only if as many
fields are expected as are rendered down to there. -/
theorem differenceText_numbered (file name expected rendered : List Char) (line : Nat) :
    ∃ ls : List DifferenceLine,
      differenceText file line name expected rendered
          = unlines (("  --> ".toList ++ file ++ ':' :: decimal line)
            :: ("   = ".toList ++ name) :: ls.map text) ∧
        (ls.filter showsExpected).map (fun l => (l.content, l.number))
          = (fieldLines expected).zipIdx ∧
        ∀ above l below, ls = above ++ l :: below → l.mark.sign = '+' →
          (fieldLines rendered)[above.countP showsRendered]? = some l.content ∧
          l.number + (downToCommon above).countP showsRendered
            = above.countP showsRendered + (downToCommon above).countP showsExpected ∧
          (l.number = above.countP showsRendered ↔
            (downToCommon above).countP showsExpected
              = (downToCommon above).countP showsRendered) := by
  refine ⟨differenceLines expected rendered, rfl, numbered_differenceLines expected rendered, ?_⟩
  intro above l below h hsign
  have hmark : l.mark = .rendered := Mark.sign_eq_plus_iff.mp hsign
  have hshows : showsRendered l = true := showsRendered_iff.mpr (by simp [hmark])
  have hnumber := number_of_rendered h hmark
  refine ⟨getElem?_fieldLines h hshows, hnumber, ?_⟩
  omega

/-- One field is removed and one is added, with a common one between them: the added field is the
second of the two rendered ones, at the place 1, and is shown with the number 2. -/
theorem differenceText_misnumbered :
    differenceText "f".toList 1 "n".toList "a | b".toList "b | c".toList
        = "  --> f:1\n   = n\n  0 - a\n  1 | b\n  2 + c\n".toList ∧
      fieldLines "b | c".toList = ["b".toList, "c".toList] ∧
      ¬∀ l ∈ differenceLines "a | b".toList "b | c".toList, l.mark.sign = '+' →
        (fieldLines "b | c".toList)[l.number]? = some l.content := by
  decide +kernel

end OpcodeForms.Expectation
