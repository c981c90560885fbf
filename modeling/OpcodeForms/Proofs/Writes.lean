import Mathlib.Data.List.Pairwise
import OpcodeForms.Layout
import OpcodeForms.Proofs.Fields

/-!
# Sequences of writes

Values are written to the fields of a word one after the other. If no two of the fields overlap,
only the last value of each field counts, however the writes to different fields are mixed.
-/

namespace OpcodeForms

namespace Field

open Bits

variable {f g : Field} {fs : List Field} {w u v : UInt32} {i : Nat}

/-! ## Overlapping fields -/

theorem overlaps_comm : f.Overlaps g ↔ g.Overlaps f :=
  and_comm

/-- **Fields overlap exactly if they have a bit in common.** -/
theorem overlaps_iff_exists_covers :
    f.Overlaps g ↔ ∃ i, i < 32 ∧ f.Covers i ∧ g.Covers i := by
  constructor
  · rintro ⟨hfg, hgf⟩
    have hf : f.start < f.stop := Nat.lt_add_of_pos_right f.size_pos
    have hg : g.start < g.stop := Nat.lt_add_of_pos_right g.size_pos
    -- the first bit of the one that starts later
    have hcf : f.Covers (Nat.max f.start g.start) :=
      ⟨Nat.le_max_left _ _, Nat.max_lt.mpr ⟨hf, hgf⟩⟩
    have hcg : g.Covers (Nat.max f.start g.start) :=
      ⟨Nat.le_max_right _ _, Nat.max_lt.mpr ⟨hfg, hg⟩⟩
    exact ⟨_, hcf.lt, hcf, hcg⟩
  · rintro ⟨i, -, hf, hg⟩
    by_contra h
    exact not_covers_of_not_overlaps h hf hg

/-- No two of the fields overlap. -/
abbrev Apart (fs : List Field) : Prop :=
  fs.Pairwise fun f g => ¬ f.Overlaps g

instance : Std.Symm fun f g : Field => ¬ f.Overlaps g :=
  ⟨fun _ _ => mt overlaps_comm.mp⟩

theorem not_overlaps_of_mem (h : Apart fs) (hf : f ∈ fs)
    (hg : g ∈ fs) (hne : f ≠ g) : ¬ f.Overlaps g :=
  h.forall hf hg hne

/-- The fields of each layout do not overlap. -/
theorem apart_layouts :
    Apart Layout.word1 ∧ (∀ e, Apart ((Layout.word2 e).map (·.2))) ∧ Apart Layout.word3 := by
  refine ⟨by decide, ?_, by decide⟩
  intro e
  cases e <;> decide

/-! ## Running writes -/

/-- A value and the field that it is written to. -/
structure Write where
  field : Field
  value : UInt32
deriving DecidableEq

namespace Write

variable {s : Write} {ss ss' : List Write}

/-- The word after the writes, unless a value does not fit in its field. -/
def run? (w : UInt32) (ss : List Write) : Option UInt32 :=
  ss.foldlM (fun w s => s.field.set? w s.value) w

/-- The writes to one field, in order. -/
def toField (f : Field) (ss : List Write) : List Write :=
  ss.filter fun s => s.field = f

/-- What the field holds after the writes, if it holds `v` before them. -/
def lastValue (f : Field) (v : UInt32) (ss : List Write) : UInt32 :=
  (((toField f ss).map Write.value).getLast?).getD v

theorem lastValue_nil : lastValue f v [] = v := rfl

theorem lastValue_cons (f : Field) (v : UInt32) (s : Write) (ss : List Write) :
    lastValue f v (s :: ss) = lastValue f (if s.field = f then s.value else v) ss := by
  unfold lastValue toField
  by_cases h : s.field = f
  · rw [List.filter_cons_of_pos (by simpa using h), List.map_cons, List.getLast?_cons, if_pos h]
    rfl
  · rw [List.filter_cons_of_neg (by simpa using h), if_neg h]

/-- The word `u` is `w` after the writes: each field has its last value, and bits outside the fields
are as they were. -/
structure Leaves (fs : List Field) (ss : List Write) (w u : UInt32) : Prop where
  get_eq : ∀ f ∈ fs, f.get u = lastValue f (f.get w) ss
  bit_eq : ∀ i < 32, (∀ f ∈ fs, ¬ f.Covers i) → bit u i = bit w i

/-- **One write** before others only matters for its own field. -/
theorem Leaves.cons (hfs : Apart fs) (hs : s.field ∈ fs)
    (hfits : s.value ≤ s.field.max) (h : Leaves fs ss (s.field.set w s.value) u) :
    Leaves fs (s :: ss) w u where
  get_eq := by
    intro f hf
    rw [h.get_eq f hf, lastValue_cons]
    by_cases hsf : s.field = f
    · rw [if_pos hsf, ← hsf, get_set_self (le_max_iff.mp hfits)]
    · rw [if_neg hsf, get_set_of_not_overlaps (not_overlaps_of_mem hfs hf hs (Ne.symm hsf))]
  bit_eq := by
    intro i hi hout
    rw [h.bit_eq i hi hout, bit_set_of_not_covers (hout _ hs)]

/-- **Any number of writes** of values that fit. -/
theorem exists_leaves (hfs : Apart fs) (w : UInt32)
    (hss : ∀ s ∈ ss, s.field ∈ fs ∧ s.value ≤ s.field.max) :
    ∃ u, run? w ss = some u ∧ Leaves fs ss w u := by
  induction ss generalizing w with
  | nil => exact ⟨w, rfl, fun f _ => lastValue_nil.symm, fun _ _ _ => rfl⟩
  | cons s ss ih =>
    obtain ⟨⟨hs, hfits⟩, hss⟩ := List.forall_mem_cons.mp hss
    obtain ⟨u, hrun, hu⟩ := ih (s.field.set w s.value) hss
    refine ⟨u, ?_, hu.cons hfs hs hfits⟩
    rw [run?, List.foldlM_cons, set?, if_pos hfits]
    exact hrun

/-- Writes with the same order on each field leave the same word. -/
theorem Leaves.unique {u' : UInt32} (h : Leaves fs ss w u) (h' : Leaves fs ss' w u')
    (hsame : ∀ f ∈ fs, toField f ss' = toField f ss) : u' = u := by
  apply ext_bit
  intro i hi
  by_cases hcovers : ∃ f ∈ fs, f.Covers i
  · obtain ⟨f, hf, hfi⟩ := hcovers
    have hlast : lastValue f (f.get w) ss' = lastValue f (f.get w) ss := by
      rw [lastValue, hsame f hf, lastValue]
    have hget : f.get u' = f.get u := by
      rw [h'.get_eq f hf, hlast, h.get_eq f hf]
    exact get_eq_iff.mp hget i hfi
  · have hout : ∀ f ∈ fs, ¬ f.Covers i := fun f hf hfi => hcovers ⟨f, hf, hfi⟩
    rw [h'.bit_eq i hi hout, h.bit_eq i hi hout]

/-- The writes in another order, in which those to the same field follow one another as before. -/
structure Reorders (ss' ss : List Write) : Prop where
  perm : ss'.Perm ss
  toField_eq : ∀ f, toField f ss' = toField f ss

/-- **Writes to fields that do not overlap are independent.** The fields of a layout do not overlap.
Whatever values that fit are written to such fields one after the other, in the end each field reads
the last value that was written to it, or what it read before if there is none, and the bits outside
all fields are as they were. Only the order of the writes to the same field matters. Fields overlap
if they have a bit in common, and not otherwise. -/
theorem independent_of_apart (hfs : Apart fs) (w : UInt32)
    (hss : ∀ s ∈ ss, s.field ∈ fs ∧ s.value ≤ s.field.max) :
    (Apart Layout.word1 ∧ (∀ e, Apart ((Layout.word2 e).map (·.2))) ∧ Apart Layout.word3) ∧
    (∃ u, run? w ss = some u ∧
      (∀ f ∈ fs, f.get u = lastValue f (f.get w) ss) ∧
      (∀ i < 32, (∀ f ∈ fs, ¬ f.Covers i) → bit u i = bit w i) ∧
      ∀ ss', Reorders ss' ss → run? w ss' = some u) ∧
    ∀ f g : Field, f.Overlaps g ↔ ∃ i, i < 32 ∧ f.Covers i ∧ g.Covers i := by
  obtain ⟨u, hrun, hu⟩ := exists_leaves hfs w hss
  refine ⟨apart_layouts, ⟨u, hrun, hu.get_eq, hu.bit_eq, ?_⟩, fun _ _ => overlaps_iff_exists_covers⟩
  intro ss' h
  obtain ⟨u', hrun', hu'⟩ := exists_leaves hfs w fun s hs => hss s (h.perm.mem_iff.mp hs)
  rw [hrun', hu.unique hu' fun f _ => h.toField_eq f]

/-- Two writes to the opcode, which reaches bit 31, with one to the encoding after or before. -/
theorem independent_of_apart_opcode :
    Apart Layout.word1 ∧
      run? 0xffff0008 [⟨Layout.opcode, 0x90⟩, ⟨Layout.opcode, 0xf01⟩, ⟨Layout.encoding, 4⟩]
        = some 0xf01000c ∧
      run? 0xffff0008 [⟨Layout.encoding, 4⟩, ⟨Layout.opcode, 0x90⟩, ⟨Layout.opcode, 0xf01⟩]
        = some 0xf01000c := by
  have hss : ∀ s ∈ [⟨Layout.opcode, 0x90⟩, ⟨Layout.opcode, 0xf01⟩, (⟨Layout.encoding, 4⟩ : Write)],
      s.field ∈ Layout.word1 ∧ s.value ≤ s.field.max := by
    decide
  have hfs : Apart Layout.word1 := by decide
  obtain ⟨-, ⟨u, hrun, -, -, hreorder⟩, -⟩ := independent_of_apart hfs 0xffff0008 hss
  have hu : u = 0xf01000c := Option.some.inj (hrun.symm.trans (by decide))
  rw [hu] at hrun hreorder
  refine ⟨hfs, hrun, hreorder _ ⟨by decide, ?_⟩⟩
  intro f
  unfold toField
  by_cases hopcode : Layout.opcode = f
  · subst hopcode
    decide
  · by_cases hencoding : Layout.encoding = f <;> simp [hopcode, hencoding]

end Write

end Field

end OpcodeForms
