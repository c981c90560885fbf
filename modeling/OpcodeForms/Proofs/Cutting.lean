import OpcodeForms.Text.Split

/-!
# Cutting text back into its pieces

What `before`, `after?` and `words` give on a text that was put together from pieces without
separators in them: the pieces.
-/

namespace OpcodeForms.Text

variable {sep c : Char} {s t w : List Char} {ws vs : List (List Char)}

/-! ## The first separator -/

theorem before_append_cons (h : sep ∉ s) (t : List Char) : before sep (s ++ sep :: t) = s := by
  unfold before
  rw [List.takeWhile_append_of_pos]
  · simp
  · intro c hc
    exact bne_iff_ne.mpr fun he => h (he ▸ hc)

theorem after?_append_cons (h : sep ∉ s) (t : List Char) :
    after? sep (s ++ sep :: t) = some t := by
  unfold after?
  rw [List.dropWhile_append_of_pos]
  · simp
  · intro c hc
    exact bne_iff_ne.mpr fun he => h (he ▸ hc)

theorem after?_append_of_not_mem (h : sep ∉ s) (t : List Char) :
    after? sep (s ++ t) = after? sep t := by
  unfold after?
  rw [List.dropWhile_append_of_pos]
  intro c hc
  exact bne_iff_ne.mpr fun he => h (he ▸ hc)

theorem before_of_not_mem (h : sep ∉ s) : before sep s = s := by
  unfold before
  rw [← List.append_nil s, List.takeWhile_append_of_pos]
  · simp
  · intro c hc
    exact bne_iff_ne.mpr fun he => h (he ▸ hc)

theorem not_mem_before : sep ∉ before sep s := by
  intro h
  have hne := List.all_eq_true.mp List.all_takeWhile sep h
  exact bne_iff_ne.mp hne rfl

/-- **A text with a separator is cut at the first one.** -/
theorem after?_eq_some_iff : after? sep s = some t ↔ s = before sep s ++ sep :: t := by
  constructor
  · intro h
    unfold after? at h
    split at h
    · cases h
    · next c r hdrop =>
      have hc : c = sep := by
        have hhead := List.head?_dropWhile_not (· != sep) s
        rw [hdrop] at hhead
        simpa using hhead
      cases h
      have happend := List.takeWhile_append_dropWhile (p := (· != sep)) (l := s)
      rw [hdrop, hc] at happend
      exact happend.symm
  · intro h
    rw [h, after?_append_cons not_mem_before]

theorem after?_eq_none_iff : after? sep s = none ↔ sep ∉ s := by
  constructor
  · intro h hmem
    unfold after? at h
    split at h
    · next hdrop =>
      have happend := List.takeWhile_append_dropWhile (p := (· != sep)) (l := s)
      rw [hdrop, List.append_nil] at happend
      rw [← happend] at hmem
      exact not_mem_before hmem
    · cases h
  · intro h
    cases ha : after? sep s with
    | none => rfl
    | some t =>
      rw [after?_eq_some_iff.mp ha] at h
      exact absurd (List.mem_append_right _ List.mem_cons_self) h

/-- **A text is one piece, or a piece with a separator and then a text.** -/
theorem cut_induction (sep : Char) {motive : List Char → Prop} (last : ∀ p, sep ∉ p → motive p)
    (cons : ∀ p s, sep ∉ p → motive s → motive (p ++ sep :: s)) (s : List Char) : motive s := by
  cases h : after? sep s with
  | none => exact last s (after?_eq_none_iff.mp h)
  | some t =>
    have hs := after?_eq_some_iff.mp h
    have hlt : t.length < s.length := by
      rw [hs, List.length_append, List.length_cons]
      omega
    rw [hs]
    exact cons _ t not_mem_before (cut_induction sep last cons t)
termination_by s.length

/-- The characters of a text that was put together from pieces. -/
theorem mem_intercalate {gap : List Char} : ∀ {ss : List (List Char)}, c ∈ gap.intercalate ss →
    c ∈ gap ∨ ∃ s ∈ ss, c ∈ s
  | [], h => by cases h
  | [s], h => by
    rw [List.intercalate_singleton] at h
    exact .inr ⟨s, List.mem_cons_self, h⟩
  | s :: t :: ss, h => by
    rw [List.intercalate_cons_cons, List.mem_append, List.mem_append] at h
    rcases h with (h | h) | h
    · exact .inr ⟨s, List.mem_cons_self, h⟩
    · exact .inl h
    · rcases mem_intercalate h with hgap | ⟨u, hu, hc⟩
      · exact .inl hgap
      · exact .inr ⟨u, List.mem_cons_of_mem s hu, hc⟩

theorem not_mem_intercalate {ss : List (List Char)} (hc : c ≠ sep) (h : ∀ s ∈ ss, c ∉ s) :
    c ∉ [sep].intercalate ss := by
  intro hmem
  rcases mem_intercalate hmem with hsep | ⟨s, hs, hcs⟩
  · exact hc (List.mem_singleton.mp hsep)
  · exact h s hs hcs

/-- A text that was put together from pieces begins with the first one. -/
theorem exists_intercalate_cons (sep w : List Char) (ws : List (List Char)) :
    ∃ t, sep.intercalate (w :: ws) = w ++ t := by
  cases ws with
  | nil => exact ⟨[], by rw [List.intercalate_singleton, List.append_nil]⟩
  | cons v ws => exact ⟨_, by rw [List.intercalate_cons_cons, List.append_assoc]⟩

theorem intercalate_append (hws : ws ≠ []) (hvs : vs ≠ []) :
    [sep].intercalate (ws ++ vs) = [sep].intercalate ws ++ sep :: [sep].intercalate vs := by
  induction ws with
  | nil => exact absurd rfl hws
  | cons w ws ih =>
    cases ws with
    | nil =>
      rw [List.singleton_append, List.intercalate_cons_of_ne_nil hvs, List.intercalate_singleton,
        List.append_assoc, List.singleton_append]
    | cons w' ws =>
      rw [List.cons_append, List.intercalate_cons_of_ne_nil (by simp), ih (by simp),
        List.intercalate_cons_cons, List.append_assoc, List.append_assoc, List.append_assoc]

/-! ## Words -/

/-- A text that is a word: it is not empty and has no blanks. -/
def IsWord (w : List Char) : Prop :=
  w ≠ [] ∧ ∀ c ∈ w, isBlank c = false

instance (w : List Char) : Decidable (IsWord w) :=
  decidable_of_iff ((!w.isEmpty && w.all fun c => !isBlank c) = true) (by simp [IsWord])

theorem words_of_isWord (h : IsWord w) : words w = [w] := by
  unfold words
  rw [List.splitOnP_eq_singleton h.2]
  simp [h.1]

theorem words_append_cons (h : IsWord w) (hc : isBlank c = true) (s : List Char) :
    words (w ++ c :: s) = w :: words s := by
  unfold words
  rw [List.splitOnP_append_cons_of_forall_mem h.2 c hc]
  simp [h.1]

/-- **The words of a line that was put together from words are these.** -/
theorem words_intercalate : ∀ {ws : List (List Char)}, (∀ w ∈ ws, IsWord w) →
    words ([' '].intercalate ws) = ws
  | [], _ => by decide
  | [w], h => by
    rw [List.intercalate_singleton]
    exact words_of_isWord (h w List.mem_cons_self)
  | w :: v :: ws, h => by
    have ih := words_intercalate fun u hu => h u (List.mem_cons_of_mem w hu)
    rw [List.intercalate_cons_cons, List.append_assoc, List.singleton_append,
      words_append_cons (h w List.mem_cons_self) (by decide), ih]

/-! ## Piece by piece -/

/-- Where each piece is read, all of them are. -/
theorem mapM_eq_some {α β : Type} {f : α → Option β} {g : α → β} :
    ∀ l : List α, (∀ a ∈ l, f a = some (g a)) → l.mapM f = some (l.map g)
  | [], _ => rfl
  | a :: l, h => by
    obtain ⟨ha, hl⟩ := List.forall_mem_cons.mp h
    rw [List.mapM_cons, ha, mapM_eq_some l hl]
    rfl

end OpcodeForms.Text
