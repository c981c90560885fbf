import Mathlib.Data.List.Induction
import OpcodeForms.Expectation.Fields
import OpcodeForms.Proofs.EntryReading

/-!
# Joined fields are read back

Fields are joined with a bar between blanks, and are cut at the bars alone, with the blanks around
them trimmed. So the reader of expectation files gets the fields back from the text they were
joined to, up to what `joinFields` does to their blanks (`fieldsOf_joinFields`).

What it does to them is said here without words: a run of blanks becomes one space, and those at
the ends go (`normalize_eq`).
-/

namespace OpcodeForms

namespace Text

variable {c d : Char} {s t w : List Char}

/-! ## Blanks at the ends -/

theorem trim_cons_blank (hc : isBlank c = true) (s : List Char) : trim (c :: s) = trim s := by
  rw [trim, List.dropWhile_cons_of_pos hc, trim]

/-- Only what follows the last character that is not blank is cut off at the end. -/
theorem trimEnd_append_cons (hc : isBlank c = false) (s t : List Char) :
    trimEnd (s ++ c :: t) = s ++ c :: trimEnd t := by
  have hkeep : (c :: s.reverse).dropWhile isBlank = c :: s.reverse :=
    List.dropWhile_cons_of_neg (by simp [hc])
  simp only [trimEnd, List.reverse_append, List.reverse_cons, List.append_assoc,
    List.singleton_append]
  rw [List.dropWhile_append, hkeep]
  cases hrest : t.reverse.dropWhile isBlank with
  | nil => simp
  | cons d r => simp

theorem trim_cons_of_not_blank (hc : isBlank c = false) (s : List Char) :
    trim (c :: s) = c :: trimEnd s := by
  rw [trim, List.dropWhile_cons_of_neg (by simp [hc])]
  exact trimEnd_append_cons hc [] s

/-! ## Runs of blanks -/

/-- The text with one space for every run of blanks: a blank before another one is left out, any
other blank is a space. -/
def squeeze : List Char → List Char
  | [] => []
  | c :: s =>
    if isBlank c then
      if s.head?.any isBlank then squeeze s else ' ' :: squeeze s
    else c :: squeeze s

theorem squeeze_cons_of_not_blank (hc : isBlank c = false) (s : List Char) :
    squeeze (c :: s) = c :: squeeze s := by
  rw [squeeze, if_neg (by simp [hc])]

/-- A run of blanks is squeezed to a space, and no blank follows. -/
theorem exists_squeeze_cons_blank (hc : isBlank c = true) (s : List Char) :
    ∃ t, squeeze (c :: s) = ' ' :: t ∧ ∀ d, t.head? = some d → isBlank d = false := by
  induction s generalizing c with
  | nil => exact ⟨[], by simp [squeeze, hc], by simp⟩
  | cons d s ih =>
    rw [squeeze, if_pos hc]
    cases hd : isBlank d with
    | true =>
      rw [if_pos (by simp [hd])]
      exact ih hd
    | false =>
      rw [if_neg (by simp [hd])]
      refine ⟨squeeze (d :: s), rfl, ?_⟩
      rw [squeeze_cons_of_not_blank hd]
      simpa using hd

/-- A blank at the beginning does not count. -/
theorem trim_squeeze_cons_blank (hc : isBlank c = true) (s : List Char) :
    trim (squeeze (c :: s)) = trim (squeeze s) := by
  rw [squeeze, if_pos hc]
  split
  · rfl
  · exact trim_cons_blank (by decide) _

/-! ## Words -/

theorem words_cons_blank (hc : isBlank c = true) (s : List Char) : words (c :: s) = words s := by
  rw [words, List.splitOnP_cons_eq_if_modifyHead, if_pos hc]
  rfl

/-- A character before a word belongs to the word. -/
theorem exists_words_cons_cons (hc : isBlank c = false) (hd : isBlank d = false) (s : List Char) :
    ∃ w ws, words (d :: s) = w :: ws ∧ words (c :: d :: s) = (c :: w) :: ws := by
  obtain ⟨p, ps, hsplit⟩ := List.exists_cons_of_ne_nil (List.splitOnP_ne_nil isBlank s)
  refine ⟨d :: p, ps.filter fun w => !w.isEmpty, ?_, ?_⟩
  · rw [words, List.splitOnP_cons_eq_if_modifyHead, if_neg (by simp [hd]), hsplit]
    rfl
  · rw [words, List.splitOnP_cons_eq_if_modifyHead, if_neg (by simp [hc]),
      List.splitOnP_cons_eq_if_modifyHead, if_neg (by simp [hd]), hsplit]
    rfl

/-- The pieces of a text are made of its characters, without those at which it is cut. -/
theorem mem_pieces (p : Char → Bool) (s : List Char) :
    ∀ w ∈ s.splitOnP p, ∀ c ∈ w, c ∈ s ∧ p c = false := by
  induction s with
  | nil => simp [List.splitOnP_nil]
  | cons a s ih =>
    obtain ⟨v, vs, hsplit⟩ := List.exists_cons_of_ne_nil (List.splitOnP_ne_nil p s)
    have hpieces : ∀ w ∈ v :: vs, ∀ c ∈ w, c ∈ a :: s ∧ p c = false := fun w hw c hc =>
      (ih w (hsplit ▸ hw) c hc).imp_left (List.mem_cons_of_mem a)
    rw [List.splitOnP_cons_eq_if_modifyHead, hsplit]
    cases ha : p a with
    | true =>
      rw [if_pos rfl]
      exact List.forall_mem_cons.mpr ⟨by simp, hpieces⟩
    | false =>
      obtain ⟨hv, hvs⟩ := List.forall_mem_cons.mp hpieces
      rw [if_neg Bool.false_ne_true, List.modifyHead_cons]
      refine List.forall_mem_cons.mpr ⟨?_, hvs⟩
      exact List.forall_mem_cons.mpr ⟨⟨List.mem_cons_self, ha⟩, hv⟩

theorem isWord_of_mem_words (h : w ∈ words s) : IsWord w := by
  obtain ⟨hpiece, hne⟩ := List.mem_filter.mp h
  exact ⟨by simpa using hne, fun c hc => (mem_pieces isBlank s w hpiece c hc).2⟩

theorem mem_of_mem_words (h : w ∈ words s) (hc : c ∈ w) : c ∈ s :=
  (mem_pieces isBlank s w (List.mem_filter.mp h).1 c hc).1

end Text

namespace Expectation

open Text

variable {c d : Char} {s t name : List Char} {fields others : List (List Char)}

/-! ## The blanks of a field -/

theorem normalize_cons_blank (hc : isBlank c = true) (s : List Char) :
    normalize (c :: s) = normalize s := by
  rw [normalize, words_cons_blank hc, normalize]

theorem normalize_cons_cons (hc : isBlank c = false) (hd : isBlank d = false) (s : List Char) :
    normalize (c :: d :: s) = c :: normalize (d :: s) := by
  obtain ⟨w, ws, hws, hcws⟩ := exists_words_cons_cons hc hd s
  rw [normalize, normalize, hws, hcws, List.intercalate_cons_cons_left]

/-- A blank after a word is a space, if there is another word. -/
theorem normalize_cons_cons_blank (hc : isBlank c = false) (hd : isBlank d = true)
    (s : List Char) :
    normalize (c :: d :: s) = if normalize s = [] then [c] else c :: ' ' :: normalize s := by
  have hword : IsWord [c] := ⟨by simp, by simpa using hc⟩
  have hwords : words (c :: d :: s) = [c] :: words s := words_append_cons hword hd s
  rw [normalize, hwords, normalize]
  cases hs : words s with
  | nil => rfl
  | cons w ws =>
    obtain ⟨t, ht⟩ := exists_intercalate_cons [' '] w ws
    have hw : w ≠ [] := (isWord_of_mem_words (hs ▸ List.mem_cons_self)).1
    rw [List.intercalate_cons_cons, if_neg]
    · rfl
    · rw [ht]
      exact fun h => hw (List.append_eq_nil_iff.mp h).1

/-- **To normalize a field is to squeeze its runs of blanks and to trim it.** By induction on the
field; after a character that is not blank, its next one tells whether a space has to stay. -/
theorem normalize_eq (s : List Char) : normalize s = trim (squeeze s) := by
  induction s with
  | nil => rfl
  | cons c s ih =>
    cases hc : isBlank c with
    | true => rw [normalize_cons_blank hc, ih, trim_squeeze_cons_blank hc]
    | false =>
      rw [squeeze_cons_of_not_blank hc, trim_cons_of_not_blank hc]
      cases s with
      | nil =>
        have hword : IsWord [c] := ⟨by simp, by simpa using hc⟩
        rw [normalize, words_of_isWord hword]
        rfl
      | cons d s =>
        cases hd : isBlank d with
        | false =>
          rw [normalize_cons_cons hc hd, ih, squeeze_cons_of_not_blank hd,
            trim_cons_of_not_blank hd]
          exact congrArg _ (trimEnd_append_cons hd [] _).symm
        | true =>
          obtain ⟨t, ht, hhead⟩ := exists_squeeze_cons_blank hd s
          rw [normalize_cons_blank hd, ht, trim_cons_blank (by decide)] at ih
          rw [normalize_cons_cons_blank hc hd, ht, ih]
          cases t with
          | nil => rfl
          | cons e t =>
            have he := hhead e rfl
            rw [trim_cons_of_not_blank he, if_neg (List.cons_ne_nil _ _)]
            exact congrArg _ (trimEnd_append_cons he [' '] t).symm

theorem trim_normalize (s : List Char) : trim (normalize s) = normalize s := by
  rw [normalize_eq, trim_trim]

theorem normalize_normalize (s : List Char) : normalize (normalize s) = normalize s := by
  rw [normalize, normalize, words_intercalate fun _ => isWord_of_mem_words]

/-- The only blanks of a normalized field are spaces. -/
theorem mem_normalize (h : c ∈ normalize s) : c = ' ' ∨ isBlank c = false ∧ c ∈ s := by
  rcases mem_intercalate h with hspace | ⟨w, hw, hc⟩
  · exact .inl (List.mem_singleton.mp hspace)
  · exact .inr ⟨(isWord_of_mem_words hw).2 c hc, mem_of_mem_words hw hc⟩

theorem not_mem_normalize (hc : c ≠ ' ') (h : c ∉ s) : c ∉ normalize s := by
  intro hmem
  rcases mem_normalize hmem with hspace | ⟨-, hs⟩
  · exact hc hspace
  · exact h hs

theorem joinFields_map_normalize (fields : List (List Char)) :
    joinFields (fields.map normalize) = joinFields fields := by
  rw [joinFields, joinFields, List.map_map]
  exact congrArg _ (List.map_congr_left fun f _ => normalize_normalize f)

/-- The only blanks of joined fields are spaces. -/
theorem mem_joinFields (h : c ∈ joinFields fields) :
    c = ' ' ∨ c = '|' ∨ isBlank c = false ∧ ∃ f ∈ fields, c ∈ f := by
  rcases mem_intercalate h with hsep | ⟨s, hs, hc⟩
  · have hsigns : c = ' ' ∨ c = '|' ∨ c = ' ' := by
      simpa [separator] using hsep
    grind
  · obtain ⟨f, hf, rfl⟩ := List.mem_map.mp hs
    rcases mem_normalize hc with hspace | ⟨hblank, hmem⟩
    · exact .inl hspace
    · exact .inr (.inr ⟨hblank, f, hf, hmem⟩)

/-! ## Cutting at the bars -/

theorem fieldsOf_of_not_mem (h : '|' ∉ s) : Entry.fieldsOf s = [trim s] := by
  rw [Entry.fieldsOf, List.splitOn_eq_singleton h, List.map_singleton]

theorem fieldsOf_append_bar (h : '|' ∉ s) (t : List Char) :
    Entry.fieldsOf (s ++ '|' :: t) = trim s :: Entry.fieldsOf t := by
  rw [Entry.fieldsOf, List.splitOn_append_cons_self_of_not_mem h, List.map_cons, Entry.fieldsOf]

theorem ne_bar_of_blank (hc : isBlank c = true) : c ≠ '|' := by
  rintro rfl
  exact absurd hc (by decide)

theorem fieldsOf_cons_blank (hc : isBlank c = true) (s : List Char) :
    Entry.fieldsOf (c :: s) = Entry.fieldsOf s := by
  have hbar := ne_bar_of_blank hc
  induction s using cut_induction '|' with
  | last p hp =>
    rw [fieldsOf_of_not_mem (by simp [hbar.symm, hp]), fieldsOf_of_not_mem hp,
      trim_cons_blank hc]
  | cons p s hp _ =>
    rw [← List.cons_append, fieldsOf_append_bar (by simp [hbar.symm, hp]),
      fieldsOf_append_bar hp, trim_cons_blank hc]

theorem fieldsOf_append_blank (hc : isBlank c = true) (s : List Char) :
    Entry.fieldsOf (s ++ [c]) = Entry.fieldsOf s := by
  have hbar := ne_bar_of_blank hc
  induction s using cut_induction '|' with
  | last p hp =>
    rw [fieldsOf_of_not_mem (by simp [hbar.symm, hp]), fieldsOf_of_not_mem hp,
      trim_append_blank p hc]
  | cons p s hp ih =>
    rw [List.append_assoc, List.cons_append, fieldsOf_append_bar hp, fieldsOf_append_bar hp, ih]

/-- The blanks at the end belong to the last field. -/
theorem fieldsOf_trimEnd (s : List Char) : Entry.fieldsOf (trimEnd s) = Entry.fieldsOf s := by
  induction s using List.reverseRecOn with
  | nil => rfl
  | append_singleton s c ih =>
    cases hc : isBlank c with
    | true => rw [trimEnd_append_blank s hc, ih, fieldsOf_append_blank hc]
    | false => rw [trimEnd_append_cons hc s []]; rfl

theorem fieldsOf_append_separator (h : '|' ∉ s) (t : List Char) :
    Entry.fieldsOf (s ++ separator ++ t) = trim s :: Entry.fieldsOf t := by
  have hblank : isBlank ' ' = true := by decide
  calc Entry.fieldsOf (s ++ separator ++ t)
      = Entry.fieldsOf ((s ++ [' ']) ++ '|' :: ' ' :: t) := by simp [separator]
    _ = trim (s ++ [' ']) :: Entry.fieldsOf (' ' :: t) := fieldsOf_append_bar (by simp [h]) _
    _ = trim s :: Entry.fieldsOf t := by
      rw [trim_append_blank s hblank, fieldsOf_cons_blank hblank]

/-- **Cutting at the bars undoes joining**, for pieces without bars and up to the blanks around
them. -/
theorem fieldsOf_intercalate : ∀ {ps : List (List Char)}, ps ≠ [] → (∀ p ∈ ps, '|' ∉ p) →
    Entry.fieldsOf (separator.intercalate ps) = ps.map trim
  | [], hne, _ => absurd rfl hne
  | [p], _, h => by
    rw [List.intercalate_singleton, List.map_singleton]
    exact fieldsOf_of_not_mem (h p List.mem_cons_self)
  | p :: q :: ps, _, h => by
    obtain ⟨hp, hps⟩ := List.forall_mem_cons.mp h
    rw [List.intercalate_cons_cons, fieldsOf_append_separator hp,
      fieldsOf_intercalate (List.cons_ne_nil q ps) hps, List.map_cons (a := p)]

/-- **Joined fields are read back normalized.** -/
theorem fieldsOf_joinFields (hne : fields ≠ []) (h : ∀ f ∈ fields, '|' ∉ f) :
    Entry.fieldsOf (joinFields fields) = fields.map normalize := by
  have hbar : ∀ p ∈ fields.map normalize, '|' ∉ p := by
    intro p hp
    obtain ⟨f, hf, rfl⟩ := List.mem_map.mp hp
    exact not_mem_normalize (by decide) (h f hf)
  rw [joinFields, fieldsOf_intercalate (by simpa using hne) hbar, List.map_map]
  exact List.map_congr_left fun f _ => trim_normalize f

/-- So joined fields are the same text only if they are the same fields, up to their blanks. -/
theorem joinFields_eq_iff (hne : fields ≠ []) (h : ∀ f ∈ fields, '|' ∉ f) (hne' : others ≠ [])
    (h' : ∀ f ∈ others, '|' ∉ f) :
    joinFields fields = joinFields others ↔ fields.map normalize = others.map normalize := by
  constructor
  · intro heq
    rw [← fieldsOf_joinFields hne h, heq, fieldsOf_joinFields hne' h']
  · intro heq
    rw [joinFields, heq, joinFields]

/-! ## Whole entries -/

/-- A name, a colon, and fields that were joined. -/
def entryText (name : List Char) (fields : List (List Char)) : List Char :=
  name ++ ": ".toList ++ joinFields fields

/-- The text of a name: not empty, and without blanks, colons and number signs. -/
structure IsPlainName (name : List Char) : Prop where
  ne_nil : name ≠ []
  not_blank : ∀ c ∈ name, isBlank c = false
  colon : ':' ∉ name
  number_sign : '#' ∉ name

theorem mem_entryText (h : c ∈ entryText name fields) :
    c ∈ name ∨ c = ':' ∨ c = ' ' ∨ c = '|' ∨ isBlank c = false ∧ ∃ f ∈ fields, c ∈ f := by
  rcases List.mem_append.mp h with h | h
  · rcases List.mem_append.mp h with h | h
    · exact .inl h
    · have hsigns : c = ':' ∨ c = ' ' := by
        simpa using h
      grind
  · exact .inr (.inr (mem_joinFields h))

/-- The text of an entry is a line, whatever line ends the fields had. -/
theorem lines_entryText (hname : IsPlainName name) (fields : List (List Char)) :
    lines (entryText name fields) = [entryText name fields] := by
  have hbreak : '\n' ∉ entryText name fields := by
    intro h
    rcases mem_entryText h with h | h | h | h | ⟨h, -⟩
    · exact absurd (hname.not_blank _ h) (by decide)
    all_goals exact absurd h (by decide)
  rw [lines_of_not_mem hbreak, if_neg]
  simp [entryText]

theorem not_mem_entryText (hname : IsPlainName name) (h : ∀ f ∈ fields, '#' ∉ f) :
    '#' ∉ entryText name fields := by
  intro hmem
  rcases mem_entryText hmem with hmem | hmem | hmem | hmem | ⟨-, f, hf, hmem⟩
  · exact hname.number_sign hmem
  · exact absurd hmem (by decide)
  · exact absurd hmem (by decide)
  · exact absurd hmem (by decide)
  · exact h f hf hmem

/-- Trimming leaves the name and the colon alone. -/
theorem trim_entryText (hname : IsPlainName name) (fields : List (List Char)) :
    trim (entryText name fields) = name ++ ':' :: trimEnd (' ' :: joinFields fields) := by
  have hcolon : isBlank ':' = false := by decide
  obtain ⟨c, rest, rfl⟩ := List.exists_cons_of_ne_nil hname.ne_nil
  have hc : isBlank c = false := hname.not_blank c List.mem_cons_self
  calc trim (entryText (c :: rest) fields)
      = trim (c :: (rest ++ ':' :: ' ' :: joinFields fields)) := by simp [entryText]
    _ = c :: trimEnd (rest ++ ':' :: ' ' :: joinFields fields) := trim_cons_of_not_blank hc _
    _ = c :: rest ++ ':' :: trimEnd (' ' :: joinFields fields) := by
      rw [trimEnd_append_cons hcolon, List.cons_append]

/-- **The line is read as an entry with the name and the normalized fields.** -/
theorem ofLine?_entryText (hname : IsPlainName name) (hne : fields ≠ [])
    (h : ∀ f ∈ fields, '|' ∉ f ∧ '#' ∉ f) (n : Nat) :
    Entry.ofLine? (entryText name fields) n
      = some (.ok { line := n, name, fields := fields.map normalize, comment := [] }) := by
  have hsign := not_mem_entryText hname fun f hf => (h f hf).2
  have htext : Entry.textOf (entryText name fields)
      = name ++ ':' :: trimEnd (' ' :: joinFields fields) := by
    rw [Entry.textOf, before_of_not_mem hsign, trim_entryText hname]
  have hcomment : Entry.commentOf (entryText name fields) = [] := by
    rw [Entry.commentOf, after?_eq_none_iff.mpr hsign]
    rfl
  have htrim : trim name = name :=
    trim_eq_self (fun c hc => hname.not_blank c (List.mem_of_head? hc))
      fun c hc => hname.not_blank c (List.mem_of_getLast? hc)
  have hfields : Entry.fieldsOf (trimEnd (' ' :: joinFields fields)) = fields.map normalize := by
    rw [fieldsOf_trimEnd, fieldsOf_cons_blank (by decide),
      fieldsOf_joinFields hne fun f hf => (h f hf).1]
  have hvalid : Entry.isName name = true := Entry.isName_iff.mpr ⟨hname.ne_nil, hname.not_blank⟩
  simp only [Entry.ofLine?, htext, after?_append_cons hname.colon,
    before_append_cons hname.colon, htrim, hfields, hcomment, hvalid, if_true]
  rw [if_neg (by simp)]

/-- **Rendered fields are read back as themselves**, up to their blanks: the text of an entry is
read as one entry, which has the name, no comment, and the fields with every run of blanks
squeezed to a space and none at the ends. The reader gives it at the first call and nothing at all
others, and its fields are joined to the same text. -/
theorem reads_entryText (hname : IsPlainName name) (hne : fields ≠ [])
    (h : ∀ f ∈ fields, '|' ∉ f ∧ '#' ∉ f) :
    ∃ entry : Entry, results (name ++ ": ".toList ++ joinFields fields) = [.ok entry] ∧
      entry.line = 1 ∧ entry.name = name ∧ entry.comment = [] ∧
      entry.fields = fields.map (fun f => trim (squeeze f)) ∧
      joinFields entry.fields = joinFields fields ∧
      ∀ (ts : List Entry) (i : Nat),
        ((Reader.ofText (name ++ ": ".toList ++ joinFields fields)).calls ts)[i]? =
          ts[i]?.map fun t => if i = 0 then (.ok true, entry) else (.ok false, t) := by
  have hresults : results (entryText name fields)
      = [.ok { line := 1, name, fields := fields.map normalize, comment := [] }] := by
    rw [results, numberedLines, lines_entryText hname, List.zipIdx_singleton,
      List.filterMap_cons, ofLine?_entryText hname hne h]
    rfl
  refine ⟨_, hresults, rfl, rfl, rfl, List.map_congr_left fun f _ => normalize_eq f,
    joinFields_map_normalize fields, ?_⟩
  intro ts i
  rw [(Reader.ofText _).getElem?_calls]
  show ts[i]?.map (fun t => Reader.answer t (results (entryText name fields))[i]?) = _
  rw [hresults]
  cases i <;> rfl

/-- Line ends, wide blanks and an empty field at the end go through the text of an entry. -/
theorem reads_entryText_breaks :
    IsPlainName "Nop".toList ∧
      (∀ f ∈ [[], " a\r\n\u3000b".toList, "c: d ".toList, []], '|' ∉ f ∧ '#' ∉ f) ∧
      ∃ entry : Entry,
        results ("Nop".toList ++ ": ".toList
          ++ joinFields [[], " a\r\n\u3000b".toList, "c: d ".toList, []]) = [.ok entry] ∧
        entry.fields = [[], "a b".toList, "c: d".toList, []] := by
  have hname : IsPlainName "Nop".toList :=
    ⟨by decide, by simp [isBlank], by decide, by decide⟩
  have hfields : ∀ f ∈ [[], " a\r\n\u3000b".toList, "c: d ".toList, []], '|' ∉ f ∧ '#' ∉ f := by
    decide
  obtain ⟨entry, hresults, -, -, -, heq, -⟩ :=
    reads_entryText hname (List.cons_ne_nil _ _) hfields
  exact ⟨hname, hfields, entry, hresults, heq.trans (by decide)⟩

end Expectation

end OpcodeForms
