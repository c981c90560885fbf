import OpcodeForms.CommandLine.Settings
import OpcodeForms.Proofs.Resolving

/-!
# Selected forms

What the filters of the settings come to: `Settings.Selects` says of a form that it passes all of
them. A form is shown if it does, whatever the filters are (`select_eq_ok`), and the only thing that
can go wrong is a question for a mode that there is not (`select_eq_error`).
-/

namespace OpcodeForms

namespace Text

theorem occursIn_iff {s t : List Char} : occursIn t s = true ↔ t <:+: s := by
  induction s with
  | nil => rw [occursIn, List.isEmpty_iff, List.infix_nil]
  | cons c s ih =>
    rw [occursIn, Bool.or_eq_true, List.isPrefixOf_iff_prefix, ih, List.infix_cons_iff]

end Text

theorem Info.isAvailableInMode_eq_error {info : Info} {bitness : Nat} {e : UsageError}
    (h : info.isAvailableInMode bitness = .error e) :
    bitness ∉ [16, 32, 64] ∧ e = .bitness bitness := by
  unfold isAvailableInMode at h
  split at h
  · cases h
  · split at h
    · cases h
    · split at h
      · cases h
      · next h16 h32 h64 => exact ⟨by simp [h16, h32, h64], (Except.error.inj h).symm⟩

namespace CommandLine.Settings

variable {s : Settings} {info : Info} {infos selected : List Info} {e : UsageError}

/-- The form passes all filters. -/
structure Selects (s : Settings) (info : Info) : Prop where
  instruction : s.pseudo = true ∨ info.isInstruction = true
  encoding : s.encodings = [] ∨ info.encoding ∈ s.encodings
  mnemonic : ∀ text, s.mnemonic = some text → text <:+: info.form.mnemonic
  mode : ∀ bitness, s.bitness = some bitness → info.isAvailableInMode bitness = .ok true
  name : s.names = [] ∨ ∃ name ∈ s.names, Text.eqIgnoringCase name info.form.name = true

theorem admitsKind_iff : s.admitsKind info = true ↔
    (s.pseudo = true ∨ info.isInstruction = true) ∧
      (s.encodings = [] ∨ info.encoding ∈ s.encodings) ∧
      ∀ text, s.mnemonic = some text → text <:+: info.form.mnemonic := by
  simp [admitsKind, Option.all_eq_true, Text.occursIn_iff, and_assoc]

theorem admitsName_iff : s.admitsName info = true ↔
    s.names = [] ∨ ∃ name ∈ s.names, Text.eqIgnoringCase name info.form.name = true := by
  simp [admitsName]

/-- **A form is admitted if it passes all filters.** -/
theorem admits_eq_true_iff : s.admits info = .ok true ↔ s.Selects info := by
  have hselects : s.Selects info ↔ s.admitsKind info = true ∧
      (∀ bitness, s.bitness = some bitness → info.isAvailableInMode bitness = .ok true) ∧
      s.admitsName info = true := by
    rw [admitsKind_iff, admitsName_iff]
    exact ⟨fun h => ⟨⟨h.instruction, h.encoding, h.mnemonic⟩, h.mode, h.name⟩,
      fun ⟨⟨hi, he, hm⟩, hb, hn⟩ => ⟨hi, he, hm, hb, hn⟩⟩
  rw [hselects]
  unfold admits
  cases s.admitsKind info with
  | false => simp
  | true =>
    cases s.bitness with
    | none => simp
    | some bitness =>
      cases hmode : info.isAvailableInMode bitness with
      | error e => simp [hmode]
      | ok available => simp [hmode]

instance (s : Settings) (info : Info) : Decidable (s.Selects info) :=
  decidable_of_iff _ admits_eq_true_iff

/-- There is no answer only if there is no such mode. -/
theorem admits_eq_error (h : s.admits info = .error e) :
    ∃ bitness, s.bitness = some bitness ∧ bitness ∉ [16, 32, 64] ∧ e = .bitness bitness := by
  unfold admits at h
  split at h
  · split at h
    · cases h
    · next bitness hbitness =>
      split at h
      · next e' hmode =>
        obtain ⟨hbits, he⟩ := Info.isAvailableInMode_eq_error hmode
        exact ⟨bitness, hbitness, hbits, (Except.error.inj h).symm.trans he⟩
      · cases h
  · cases h

/-- **The selected forms are those that pass all filters, in order.** -/
theorem select_eq_ok (h : s.select infos = .ok selected) :
    selected = infos.filter fun info => s.Selects info := by
  induction infos generalizing selected with
  | nil => exact (Except.ok.inj h).symm
  | cons info infos ih =>
    unfold select at h
    cases hadmits : s.admits info with
    | error e =>
      rw [hadmits] at h
      cases h
    | ok b =>
      rw [hadmits] at h
      cases hrest : s.select infos with
      | error e =>
        rw [hrest] at h
        cases h
      | ok rest =>
        rw [hrest] at h
        have hb : decide (s.Selects info) = b := by
          simp [← admits_eq_true_iff, hadmits]
        rw [← Except.ok.inj h, ih hrest, List.filter_cons, hb]

/-- Only a question for a mode that there is not can go wrong. -/
theorem select_eq_error (h : s.select infos = .error e) :
    ∃ bitness, s.bitness = some bitness ∧ bitness ∉ [16, 32, 64] ∧ e = .bitness bitness := by
  induction infos with
  | nil => cases h
  | cons info infos ih =>
    unfold select at h
    split at h
    · next e' hadmits =>
      cases h
      exact admits_eq_error hadmits
    · split at h
      · next e' hrest =>
        cases h
        exact ih hrest
      · cases h

/-- **If the mode is one that there is, nothing can go wrong.** -/
theorem select_eq (hbitness : ∀ bitness, s.bitness = some bitness → bitness ∈ [16, 32, 64])
    (infos : List Info) : s.select infos = .ok (infos.filter fun info => s.Selects info) := by
  cases h : s.select infos with
  | ok selected => rw [select_eq_ok h]
  | error e =>
    obtain ⟨bitness, hsome, hnot, -⟩ := select_eq_error h
    exact absurd (hbitness bitness hsome) hnot

/-- Colors have no part in the selection. -/
theorem select_color (s : Settings) (color : Bool) (infos : List Info) :
    Settings.select { s with color } infos = s.select infos := by
  induction infos with
  | nil => rfl
  | cons info infos ih =>
    rw [select, select, ih]
    rfl

end CommandLine.Settings

/-! ## The forms of a table -/

/-- The decoded records of a table have the codes of their positions. -/
theorem Catalogue.map_code_infos {src : List Char} {rs : List Record} {infos : List Info}
    (h : Table.read src = .ok rs) (hinfos : (ofRecords rs).infos = .ok infos) :
    infos.map (·.form.code.toNat) = List.range rs.length := by
  obtain ⟨-, -, -, -, -, infos', hinfos', hlength, hresolves⟩ := resolves_of_read h
  obtain rfl : infos' = infos := Except.ok.inj (hinfos'.symm.trans hinfos)
  apply List.ext_getElem
  · rw [List.length_map, List.length_range, hlength]
  · intro i hi _
    rw [List.length_map] at hi
    rw [List.getElem_map, List.getElem_range]
    exact (hresolves i _ _ (List.getElem?_eq_getElem (hlength ▸ hi))
      (List.getElem?_eq_getElem hi)).code

end OpcodeForms
