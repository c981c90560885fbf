import OpcodeForms.Proofs.Cutting

/-!
# Lines of a text

A text is a list of lines, each with its end, and what follows the last line end. This is the
case split for all that is said of lines here (`Text.lines_induction`): `lines` cuts one line
off after the other (`lines_append_cons`), and `unlines` is cut back into its lines
(`lines_unlines`).

The end of a line is a line feed with or without a carriage return before it (`withReturns`). For
what is left of a line after trimming, that makes no difference.
-/

namespace OpcodeForms.Text

variable {l s t : List Char} {ls : List (List Char)} {c : Char}

/-! ## Cutting off the first line -/

/-- **A text is one line without its end, or a line with its end and then a text.** -/
theorem lines_induction {motive : List Char → Prop} (last : ∀ l, '\n' ∉ l → motive l)
    (cons : ∀ l s, '\n' ∉ l → motive s → motive (l ++ '\n' :: s)) (s : List Char) : motive s :=
  cut_induction '\n' last cons s

theorem lines_of_not_mem (h : '\n' ∉ l) : lines l = if l = [] then [] else [l] := by
  have hsplit : l.splitOn '\n' = [l] :=
    List.splitOnP_eq_singleton fun c hc => beq_false_of_ne fun he => h (he ▸ hc)
  unfold lines
  rw [hsplit]
  cases l <;> rfl

/-- A line is cut off at its end. -/
theorem lines_append_cons (h : '\n' ∉ l) (s : List Char) :
    lines (l ++ '\n' :: s) = dropReturn l :: lines s := by
  have hline : ∀ c ∈ l, (c == '\n') = false := by
    intro c hc
    exact beq_false_of_ne fun he => h (he ▸ hc)
  have hsplit : (l ++ '\n' :: s).splitOn '\n' = l :: s.splitOn '\n' :=
    List.splitOnP_append_cons_of_forall_mem hline '\n' rfl s
  unfold lines
  rw [hsplit]
  cases hs : s.splitOn '\n' with
  | nil => exact absurd hs (List.splitOnP_ne_nil _ s)
  | cons p ps =>
    simp only [List.dropLast_cons_cons, List.getLast?_cons_cons, List.map_cons]
    split <;> rfl

/-- A text has no more lines than characters. -/
theorem length_lines_le (s : List Char) : (lines s).length ≤ s.length := by
  induction s using lines_induction with
  | last l hl =>
    rw [lines_of_not_mem hl]
    split
    · exact Nat.zero_le _
    · next hne => exact List.length_pos_iff.mpr hne
  | cons l s hl ih =>
    rw [lines_append_cons hl, List.length_cons, List.length_append, List.length_cons]
    omega

theorem dropReturn_append_return (l : List Char) : dropReturn (l ++ ['\r']) = l := by
  rw [dropReturn, if_pos (by simp), List.dropLast_concat]

theorem mem_of_mem_dropReturn (h : c ∈ dropReturn l) : c ∈ l := by
  unfold dropReturn at h
  split at h
  · exact List.dropLast_subset l h
  · exact h

theorem not_mem_of_mem_lines (hl : l ∈ lines s) : '\n' ∉ l := by
  induction s using lines_induction with
  | last m hm =>
    rw [lines_of_not_mem hm] at hl
    split at hl
    · cases hl
    · rwa [List.mem_singleton.mp hl]
  | cons m s hm ih =>
    rw [lines_append_cons hm, List.mem_cons] at hl
    rcases hl with rfl | hl
    · exact fun hc => hm (mem_of_mem_dropReturn hc)
    · exact ih hl

/-- The characters of lines are characters of the text. -/
theorem mem_of_mem_lines (hl : l ∈ lines s) (hc : c ∈ l) : c ∈ s := by
  induction s using lines_induction with
  | last m hm =>
    rw [lines_of_not_mem hm] at hl
    split at hl
    · cases hl
    · rwa [List.mem_singleton.mp hl] at hc
  | cons m s hm ih =>
    rw [lines_append_cons hm, List.mem_cons] at hl
    rcases hl with rfl | hl
    · exact List.mem_append_left _ (mem_of_mem_dropReturn hc)
    · exact List.mem_append_right _ (List.mem_cons_of_mem _ (ih hl))

/-- **A text made of lines is cut back into them.** -/
theorem lines_unlines (hline : ∀ l ∈ ls, '\n' ∉ l) (hreturn : ∀ l ∈ ls, l.getLast? ≠ some '\r') :
    lines (unlines ls) = ls := by
  induction ls with
  | nil => decide
  | cons l ls ih =>
    obtain ⟨hl, hls⟩ := List.forall_mem_cons.mp hline
    obtain ⟨hr, hrs⟩ := List.forall_mem_cons.mp hreturn
    have hcons : unlines (l :: ls) = l ++ '\n' :: unlines ls := by
      simp [unlines]
    rw [hcons, lines_append_cons hl, ih hls hrs, dropReturn, if_neg hr]

/-- Neither line feeds nor carriage returns are in the text. -/
def IsUnbroken (s : List Char) : Prop :=
  '\n' ∉ s ∧ '\r' ∉ s

instance (s : List Char) : Decidable (IsUnbroken s) :=
  inferInstanceAs (Decidable (_ ∧ _))

theorem isUnbroken_append : IsUnbroken (s ++ t) ↔ IsUnbroken s ∧ IsUnbroken t := by
  simp only [IsUnbroken, List.mem_append, not_or]
  constructor
  · rintro ⟨⟨hs, ht⟩, hs', ht'⟩
    exact ⟨⟨hs, hs'⟩, ht, ht'⟩
  · rintro ⟨⟨hs, hs'⟩, ht, ht'⟩
    exact ⟨⟨hs, ht⟩, hs', ht'⟩

theorem lines_unlines_of_isUnbroken (h : ∀ l ∈ ls, IsUnbroken l) : lines (unlines ls) = ls :=
  lines_unlines (fun l hl => (h l hl).1) fun l hl hlast => (h l hl).2 (List.mem_of_getLast? hlast)

/-! ## Comments and blanks -/

/-- What comes after a separator does not change what is before it. -/
theorem before_append_of_mem (h : c ∈ s) (t : List Char) : before c (s ++ t) = before c s := by
  rw [before, List.takeWhile_append, if_neg]
  · rfl
  · intro hlength
    have hbefore : before c s = s := (List.takeWhile_prefix _).eq_of_length hlength
    exact not_mem_before (hbefore.symm ▸ h)

theorem mem_of_mem_before {sep : Char} (h : c ∈ before sep s) : c ∈ s :=
  (List.takeWhile_prefix _).subset h

theorem dropWhile_append_blank (s : List Char) (hc : isBlank c = true) :
    (s ++ [c]).dropWhile isBlank = if s.dropWhile isBlank = [] then [] else
      s.dropWhile isBlank ++ [c] := by
  rw [List.dropWhile_append]
  simp [hc]

theorem trimEnd_append_blank (s : List Char) (hc : isBlank c = true) :
    trimEnd (s ++ [c]) = trimEnd s := by
  rw [trimEnd, List.reverse_append, List.reverse_singleton, List.singleton_append,
    List.dropWhile_cons_of_pos hc, trimEnd]

/-- A blank at the end does not count. -/
theorem trim_append_blank (s : List Char) (hc : isBlank c = true) : trim (s ++ [c]) = trim s := by
  rw [trim, dropWhile_append_blank s hc, trim]
  split
  · next h => rw [h]
  · exact trimEnd_append_blank _ hc

theorem trimEnd_isPrefixOf (s : List Char) : trimEnd s <+: s := by
  rw [trimEnd, ← List.reverse_suffix, List.reverse_reverse]
  exact List.dropWhile_suffix isBlank

theorem mem_of_mem_trim (h : c ∈ trim s) : c ∈ s :=
  (List.dropWhile_suffix isBlank).subset ((trimEnd_isPrefixOf _).subset h)

theorem isBlank_head?_trim (h : (trim s).head? = some c) : isBlank c = false := by
  obtain ⟨r, hr⟩ := trimEnd_isPrefixOf (s.dropWhile isBlank)
  have hhead := List.head?_dropWhile_not isBlank s
  rw [← hr, List.head?_append, show trimEnd _ = trim s from rfl, h] at hhead
  simpa using hhead

theorem isBlank_getLast?_trim (h : (trim s).getLast? = some c) : isBlank c = false := by
  rw [trim, trimEnd, List.getLast?_reverse] at h
  have hhead := List.head?_dropWhile_not isBlank (s.dropWhile isBlank).reverse
  rw [h] at hhead
  simpa using hhead

/-- A text that neither begins nor ends with a blank is left as it is. -/
theorem trim_eq_self (hhead : ∀ c, s.head? = some c → isBlank c = false)
    (hlast : ∀ c, s.getLast? = some c → isBlank c = false) : trim s = s := by
  have hdrop : ∀ {t : List Char}, (∀ c, t.head? = some c → isBlank c = false) →
      t.dropWhile isBlank = t := by
    intro t ht
    cases t with
    | nil => rfl
    | cons d t => exact List.dropWhile_cons_of_neg (by simp [ht d rfl])
  rw [trim, hdrop hhead, trimEnd, hdrop, List.reverse_reverse]
  intro c hc
  exact hlast c (by rwa [List.head?_reverse] at hc)

theorem trim_trim (s : List Char) : trim (trim s) = trim s :=
  trim_eq_self (fun _ => isBlank_head?_trim) (fun _ => isBlank_getLast?_trim)

/-! ## Carriage returns -/

/-- The text with a carriage return before every line feed. -/
def withReturns (s : List Char) : List Char :=
  s.flatMap fun c => if c = '\n' then ['\r', '\n'] else [c]

theorem withReturns_of_not_mem (h : '\n' ∉ l) : withReturns l = l := by
  unfold withReturns
  induction l with
  | nil => rfl
  | cons c l ih =>
    obtain ⟨hc, hl⟩ := List.ne_and_not_mem_of_not_mem_cons h
    rw [List.flatMap_cons, ih hl, if_neg (Ne.symm hc), List.singleton_append]

theorem withReturns_append_cons (h : '\n' ∉ l) (s : List Char) :
    withReturns (l ++ '\n' :: s) = (l ++ ['\r']) ++ '\n' :: withReturns s := by
  have hl := withReturns_of_not_mem h
  unfold withReturns at hl ⊢
  rw [List.flatMap_append, hl, List.flatMap_cons, if_pos rfl]
  simp

/-- **With returns, the lines are the same up to the returns at their ends.** -/
theorem map_lines_withReturns {α : Type} {f : List Char → α} (hf : ∀ l, f (dropReturn l) = f l)
    (s : List Char) : (lines (withReturns s)).map f = (lines s).map f := by
  induction s using lines_induction with
  | last l h => rw [withReturns_of_not_mem h]
  | cons l s h ih =>
    have hreturn : '\n' ∉ l ++ ['\r'] := by
      simp [h]
    rw [withReturns_append_cons h, lines_append_cons hreturn, lines_append_cons h,
      dropReturn_append_return, List.map_cons, List.map_cons, ih, hf]

end OpcodeForms.Text
