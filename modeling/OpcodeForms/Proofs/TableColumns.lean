import Mathlib.Algebra.Ring.Nat
import OpcodeForms.CommandLine.Sheet
import OpcodeForms.Proofs.Escapes

/-!
# Aligned columns

The titles and the forms of a table are written by different schemes: titles are padded to the width
of their column in characters, and what follows a cell of a form is computed from its length in
bytes. Titles are ASCII and no cell is longer than its column, so both put a cell where the columns
before it end (`Sheet.inColumns_layOut`).
-/

namespace OpcodeForms

namespace Text

/-! ## Lengths in bytes -/

theorem byteLength_eq_sum (s : List Char) : byteLength s = (s.map Char.utf8Size).sum := by
  rw [byteLength, List.sum_eq_foldl, List.foldl_map]

@[simp]
theorem byteLength_append (s t : List Char) :
    byteLength (s ++ t) = byteLength s + byteLength t := by
  rw [byteLength_eq_sum, List.map_append, List.sum_append, ← byteLength_eq_sum,
    ← byteLength_eq_sum]

@[simp]
theorem byteLength_blanks (n : Nat) : byteLength (List.replicate n ' ') = n := by
  rw [byteLength_eq_sum, List.map_replicate, List.sum_replicate_nat]
  exact Nat.mul_one n

theorem byteLength_flatMap {α : Type} (f : α → List Char) (as : List α) :
    byteLength (as.flatMap f) = (as.map fun a => byteLength (f a)).sum := by
  induction as with
  | nil => rfl
  | cons a as ih => rw [List.flatMap_cons, byteLength_append, ih, List.map_cons, List.sum_cons]

end Text

open Text

namespace CommandLine

/-- A title has as many bytes as characters. -/
theorem Column.byteLength_title (col : Column) : byteLength col.title = col.title.length := by
  cases col <;> decide

namespace Sheet

/-! ## Lines of cells -/

section Line

variable {α β : Type} {filled bare filled' bare' : α → List Char} {as : List α} {c : Char}

theorem line_cons (a : α) (h : as ≠ []) :
    line filled bare (a :: as) = filled a ++ line filled bare as := by
  cases as with
  | nil => exact absurd rfl h
  | cons b as => rfl

theorem line_map (f : β → α) (bs : List β) :
    line filled bare (bs.map f) = line (fun b => filled (f b)) (fun b => bare (f b)) bs := by
  induction bs with
  | nil => rfl
  | cons b bs ih =>
    cases bs with
    | nil => rfl
    | cons b' bs => rw [line_cons b (List.cons_ne_nil b' bs), ← ih]; rfl

/-- The cells before one are not the last. -/
theorem line_eq_take_drop {k : Nat} (hk : k < as.length) :
    line filled bare as = (as.take k).flatMap filled ++ line filled bare (as.drop k) := by
  induction as generalizing k with
  | nil => cases hk
  | cons a as ih =>
    cases k with
    | zero => rfl
    | succ k =>
      have hk : k < as.length := Nat.lt_of_succ_lt_succ hk
      rw [line_cons a (List.ne_nil_of_length_pos (Nat.zero_lt_of_lt hk)), ih hk,
        List.take_succ_cons, List.flatMap_cons, List.drop_succ_cons, List.append_assoc]

theorem mem_line (h : c ∈ line filled bare as) : ∃ a ∈ as, c ∈ filled a ∨ c ∈ bare a := by
  induction as with
  | nil => cases h
  | cons a as ih =>
    cases as with
    | nil => exact ⟨a, List.mem_singleton_self a, .inr h⟩
    | cons b as =>
      rw [line_cons a (List.cons_ne_nil b as), List.mem_append] at h
      rcases h with h | h
      · exact ⟨a, List.mem_cons_self, .inl h⟩
      · obtain ⟨a', ha', h⟩ := ih h
        exact ⟨a', List.mem_cons_of_mem a ha', h⟩

theorem escaped_line (hfilled : ∀ a, Escaped (filled a) (filled' a))
    (hbare : ∀ a, Escaped (bare a) (bare' a)) (as : List α) :
    Escaped (line filled bare as) (line filled' bare' as) := by
  induction as with
  | nil => exact .nil
  | cons a as ih =>
    cases as with
    | nil => exact hbare a
    | cons b as =>
      rw [line_cons a (List.cons_ne_nil b as), line_cons a (List.cons_ne_nil b as)]
      exact (hfilled a).append ih

end Line

variable {s : Sheet} {text : Column → List Char} {c : Char} {col : Column} {info : Info} {k : Nat}

/-- The text of each column, with blanks up to the width of the column and two blanks more, but for
the last column. -/
def layOut (s : Sheet) (text : Column → List Char) : List Char :=
  line (fun col => text col ++ padding (s.width col) (byteLength (text col))) text s.columns

theorem mem_layOut (h : c ∈ s.layOut text) : c = ' ' ∨ ∃ col, c ∈ text col := by
  obtain ⟨col, -, h | h⟩ := mem_line h
  · rcases List.mem_append.mp h with h | h
    · exact .inr ⟨col, h⟩
    · exact .inl (List.eq_of_mem_replicate h)
  · exact .inr ⟨col, h⟩

/-! ## Widths -/

/-- The lengths that the width of a column depends on. -/
def lengths (s : Sheet) (col : Column) : List Nat :=
  (if s.header then [byteLength col.title] else [])
    ++ s.infos.map fun info => byteLength (col.cell info)

/-- **The width of a column is the largest length**, if there is any. -/
theorem width_eq (s : Sheet) (col : Column) : s.width col = (s.lengths col).max?.getD 0 := by
  unfold width lengths
  cases s.header with
  | true => rfl
  | false =>
    rw [if_neg Bool.false_ne_true, if_neg Bool.false_ne_true, List.foldl_max, Nat.zero_max,
      List.nil_append]

theorem byteLength_title_le_width (h : s.header = true) (col : Column) :
    byteLength col.title ≤ s.width col := by
  rw [width_eq]
  exact List.le_max?_getD_of_mem (List.mem_append_left _ (by simp [h]))

theorem byteLength_cell_le_width (h : info ∈ s.infos) (col : Column) :
    byteLength (col.cell info) ≤ s.width col := by
  rw [width_eq]
  exact List.le_max?_getD_of_mem (List.mem_append_right _ (List.mem_map_of_mem h))

/-! ## Offsets -/

/-- Where the column with the index `k` begins: behind the columns before it, with two blanks after
each of them. -/
def offset (s : Sheet) (k : Nat) : Nat :=
  ((s.columns.take k).map fun col => s.width col + 2).sum

theorem offset_succ (h : s.columns[k]? = some col) :
    s.offset (k + 1) = s.offset k + (s.width col + 2) := by
  rw [offset, List.take_add_one, h, List.map_append, List.sum_append, offset]
  simp

/-- What fits into the columns fills them up, with the two blanks after each. -/
theorem byteLength_take_layOut (h : ∀ col ∈ s.columns, byteLength (text col) ≤ s.width col)
    (k : Nat) :
    byteLength ((s.columns.take k).flatMap fun col =>
      text col ++ padding (s.width col) (byteLength (text col))) = s.offset k := by
  rw [byteLength_flatMap, offset]
  congr 1
  refine List.map_congr_left fun col hcol => ?_
  have hle := h col (List.mem_of_mem_take hcol)
  rw [byteLength_append, padding, byteLength_blanks]
  omega

/-- What stands before and after the cell with the index `k` of a line. -/
structure Placed (s : Sheet) (k : Nat) (cell before after : List Char) : Prop where
  byteLength_before : byteLength before = s.offset k
  /-- There are at least two blanks up to the next cell. -/
  after_of_lt : k + 1 < s.columns.length → ∃ gap rest,
    after = List.replicate (gap + 2) ' ' ++ rest ∧
      s.offset k + byteLength cell + (gap + 2) = s.offset (k + 1)
  /-- Nothing follows the last cell. -/
  after_of_eq : k + 1 = s.columns.length → after = []

/-- The line shows one cell for each column, and nothing else. -/
structure InColumns (s : Sheet) (cells : List (List Char)) (line : List Char) : Prop where
  length_cells : cells.length = s.columns.length
  line_eq_nil : s.columns = [] → line = []
  placed : ∀ k cell, cells[k]? = some cell →
    ∃ before after, line = before ++ cell ++ after ∧ s.Placed k cell before after

/-- **What fits into the columns is aligned.** -/
theorem inColumns_layOut (h : ∀ col ∈ s.columns, byteLength (text col) ≤ s.width col) :
    s.InColumns (s.columns.map text) (s.layOut text) := by
  refine ⟨List.length_map _, fun hnil => by rw [layOut, hnil]; rfl, fun k cell hcell => ?_⟩
  rw [List.getElem?_map] at hcell
  obtain ⟨col, hcol, rfl⟩ := Option.map_eq_some_iff.mp hcell
  obtain ⟨hk, hget⟩ := List.getElem?_eq_some_iff.mp hcol
  have hle : byteLength (text col) ≤ s.width col := h col (hget ▸ List.getElem_mem hk)
  have hbefore := byteLength_take_layOut h k
  -- the cell is the first one after those of the `k` columns before it
  rw [layOut, line_eq_take_drop hk, List.drop_eq_getElem_cons hk, hget]
  by_cases hlast : s.columns.drop (k + 1) = []
  · rw [hlast]
    refine ⟨_, [], (List.append_nil _).symm, hbefore, fun hlt => ?_, fun _ => rfl⟩
    exact absurd (List.drop_eq_nil_iff.mp hlast) (Nat.not_le_of_lt hlt)
  · rw [line_cons col hlast, List.append_assoc, ← List.append_assoc]
    refine ⟨_, _, rfl, hbefore, fun _ => ?_, fun heq => ?_⟩
    · refine ⟨s.width col - byteLength (text col), _, rfl, ?_⟩
      rw [offset_succ hcol]
      omega
    · exact absurd (List.drop_eq_nil_of_le (Nat.le_of_eq heq.symm)) hlast

end Sheet

end CommandLine

end OpcodeForms
