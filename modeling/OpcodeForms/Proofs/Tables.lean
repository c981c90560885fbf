import OpcodeForms.Catalogue.Basic
import OpcodeForms.Proofs.Records

/-!
# Records of a table

Every record of an accepted table is that of one of its lines. So what holds of the records of
lines holds of the entries of a catalogue.
-/

namespace OpcodeForms

variable {src : List Char} {rs : List Record} {r : Record}

/-- The records that are read come from lines, except for those read before. -/
theorem Table.exists_of_readEntries {names : Std.TreeSet (List Char)} {done : List Record}
    {entries : List (List Char × Nat)} (h : readEntries names done entries = .ok rs)
    (hr : r ∈ rs) : r ∈ done ∨ ∃ line, Record.read line = .ok r := by
  induction entries generalizing names done with
  | nil =>
    cases h
    exact .inl (List.mem_reverse.mp hr)
  | cons entry entries ih =>
    unfold readEntries at h
    split at h
    · cases h
    · next r' hread =>
      split at h
      · cases h
      · rcases ih h with hdone | hline
        · rcases List.mem_cons.mp hdone with rfl | hdone
          · exact .inr ⟨_, hread⟩
          · exact .inl hdone
        · exact .inr hline

/-- **Every record of a table is that of a line.** -/
theorem Table.exists_line (h : read src = .ok rs) (hr : r ∈ rs) :
    ∃ line, Record.read line = .ok r := by
  unfold read at h
  split at h
  · cases h
  · next rs' hentries =>
    split at h
    · cases h
    · cases h
      rcases exists_of_readEntries hentries hr with hdone | hline
      · cases hdone
      · exact hline

theorem Table.isName_of_mem (h : read src = .ok rs) (hr : r ∈ rs) :
    Record.isName r.name = true := by
  obtain ⟨line, hline⟩ := exists_line h hr
  exact Record.isName_of_read hline

/-- Every entry of a catalogue is made from a record of its table. -/
theorem Catalogue.exists_record {entry : Entry} (h : entry ∈ (ofRecords rs).entries) :
    ∃ r ∈ rs, entry.form.opCount = r.opCount := by
  obtain ⟨i, hi, rfl⟩ := List.mem_mapIdx.mp h
  exact ⟨rs[i], List.getElem_mem hi, rfl⟩

/-- No form of a table uses more operand slots than a record has. -/
theorem Catalogue.opCount_le {entry : Entry} (h : Table.read src = .ok rs)
    (hentry : entry ∈ (ofRecords rs).entries) : entry.form.opCount ≤ Layout.slotCount := by
  obtain ⟨r, hr, hcount⟩ := exists_record hentry
  obtain ⟨line, hline⟩ := Table.exists_line h hr
  have hslots : r.encoding.opSlots ≤ Layout.slotCount := by
    cases r.encoding <;> decide
  rw [hcount]
  exact Nat.le_trans (Record.opCount_le hline) hslots

end OpcodeForms
