import Mathlib.Data.List.Forall2
import OpcodeForms.Expectation.Entry
import OpcodeForms.Proofs.LineEnds
import OpcodeForms.Text.Numeral

/-!
# Reading an expectation file to its end

A reader is called again and again, each time with an entry to be overwritten. One call answers
what the next of the results of the file says, and leaves the others to the next calls
(`Reader.next_eq`). So the calls give the results in order, then nothing for ever, and the entry
that is handed in comes back as it was unless there is a new one (`Reader.getElem?_calls`).

The results themselves are one for each line with more than a comment on it. What comes of such a
line is said by `Entry.Outcome`, in terms of where the text of the line is cut.
-/

namespace OpcodeForms

/-! ## Cutting at the first separator -/

namespace Text

variable {sep : Char} {s front : List Char} {tail : Option (List Char)}

/-- The text `s` is cut at its first `sep` into `front` and `tail`. Without a `sep` all of it is
`front`, and there is no `tail`. -/
inductive Cut (sep : Char) : List Char → List Char → Option (List Char) → Prop
  | found {front tail : List Char} (first : sep ∉ front) :
    Cut sep (front ++ sep :: tail) front (some tail)
  | missing {s : List Char} (absent : sep ∉ s) : Cut sep s s none

/-- Every text is cut in one way. -/
theorem cut_iff : Cut sep s front tail ↔ front = before sep s ∧ tail = after? sep s := by
  constructor
  · intro h
    cases h with
    | found first =>
      rw [before_append_cons first, after?_append_cons first]
      exact ⟨rfl, rfl⟩
    | missing absent =>
      rw [before_of_not_mem absent, after?_eq_none_iff.mpr absent]
      exact ⟨rfl, rfl⟩
  · rintro ⟨rfl, rfl⟩
    cases h : after? sep s with
    | none =>
      have habsent := after?_eq_none_iff.mp h
      rw [before_of_not_mem habsent]
      exact .missing habsent
    | some tail =>
      have hfound : Cut sep (before sep s ++ sep :: tail) (before sep s) (some tail) :=
        .found not_mem_before
      rwa [← after?_eq_some_iff.mp h] at hfound

/-- A text has one piece more than separators. -/
theorem length_splitOn (sep : Char) (s : List Char) :
    (s.splitOn sep).length = s.count sep + 1 := by
  induction s with
  | nil => rfl
  | cons c s ih =>
    rw [List.splitOn_cons_eq_if_modifyHead, List.count_cons]
    split <;> simp [ih]

end Text

namespace Expectation

/-! ## Lines -/

namespace Entry

variable {line : List Char × Nat} {x : Except FormatError Entry}

/-- What comes of a line with its number, if there is more than a comment on it: a fault, if there
is no colon or no name before it, or else an entry. -/
inductive Outcome (line : List Char × Nat) : Except FormatError Entry → Prop
  | missingColon {body : List Char} {comment : Option (List Char)}
    (body_cut : Text.Cut '#' line.1 body comment) (colon : ':' ∉ Text.trim body) :
    Outcome line (.error ⟨line.2, .missingColon (Text.trim body)⟩)
  | invalidName {body front tail : List Char} {comment : Option (List Char)}
    (body_cut : Text.Cut '#' line.1 body comment)
    (name_cut : Text.Cut ':' (Text.trim body) front (some tail))
    (name : Text.trim front = [] ∨ ∃ c ∈ Text.trim front, Text.isBlank c = true) :
    Outcome line (.error ⟨line.2, .invalidName (Text.trim front)⟩)
  | entry {body front tail : List Char} {comment : Option (List Char)}
    {fields : List (List Char)}
    (body_cut : Text.Cut '#' line.1 body comment)
    (name_cut : Text.Cut ':' (Text.trim body) front (some tail))
    (name : Text.trim front ≠ [] ∧ ∀ c ∈ Text.trim front, Text.isBlank c = false)
    (fields_eq : fields = (tail.splitOn '|').map Text.trim)
    (length_fields : fields.length = tail.count '|' + 1) :
    Outcome line (.ok {
      line := line.2, name := Text.trim front, fields, comment := Text.trim (comment.getD []) })

theorem isName_iff {s : List Char} :
    isName s = true ↔ s ≠ [] ∧ ∀ c ∈ s, Text.isBlank c = false := by
  simp [isName]

theorem isName_eq_false_iff {s : List Char} :
    isName s = false ↔ s = [] ∨ ∃ c ∈ s, Text.isBlank c = true := by
  rw [isName, Bool.and_eq_false_iff]
  simp

/-- **A line gives no result exactly if nothing but a comment is on it.** -/
theorem ofLine?_eq_none_iff : ofLine? line.1 line.2 = none ↔ textOf line.1 = [] := by
  unfold ofLine?
  cases htext : textOf line.1 with
  | nil => simp
  | cons c s =>
    simp only [List.isEmpty_cons, Bool.false_eq_true, if_false, reduceCtorEq, iff_false]
    split
    · exact Option.some_ne_none _
    · split <;> exact Option.some_ne_none _

/-- **The result of a line is its outcome.** -/
theorem outcome_of_ofLine? (h : ofLine? line.1 line.2 = some x) : Outcome line x := by
  have hbody : Text.Cut '#' line.1 (Text.before '#' line.1) (Text.after? '#' line.1) :=
    Text.cut_iff.mpr ⟨rfl, rfl⟩
  simp only [ofLine?] at h
  split at h
  · cases h
  · split at h
    · next hcolon =>
      cases h
      exact .missingColon hbody (Text.after?_eq_none_iff.mp hcolon)
    · next tail htail =>
      have hname : Text.Cut ':' (textOf line.1) (Text.before ':' (textOf line.1)) (some tail) :=
        Text.cut_iff.mpr ⟨rfl, htail.symm⟩
      split at h
      · next hvalid =>
        cases h
        refine .entry hbody hname (isName_iff.mp hvalid) rfl ?_
        rw [fieldsOf, List.length_map, Text.length_splitOn]
      · next hinvalid =>
        cases h
        exact .invalidName hbody hname (isName_eq_false_iff.mp (Bool.eq_false_iff.mpr hinvalid))

/-- The number that a result bears. -/
def numberOf : Except FormatError Entry → Nat
  | .error e => e.line
  | .ok entry => entry.line

theorem Outcome.numberOf_eq (h : Outcome line x) : numberOf x = line.2 := by
  cases h <;> rfl

end Entry

/-- The text of an error names what is wrong, the file and the line. -/
theorem FormatError.toList_message (file : List Char) (e : FormatError) :
    (e.message file).toList
      = "error: ".toList ++ e.fault.message.toList ++ ", ".toList ++ file ++ ':' ::
        Text.decimal e.line := by
  change ("error: " ++ e.fault.message ++ ", " ++ String.ofList file ++ ":"
    ++ Nat.repr e.line).toList = _
  simp [Text.decimal]

/-! ## Whole files -/

/-- **The results of lines are the outcomes of those with more than a comment, in order.** -/
theorem forall₂_outcome : ∀ lines : List (List Char × Nat),
    List.Forall₂ Entry.Outcome (lines.filter fun line => Entry.textOf line.1 ≠ [])
      (lines.filterMap fun line => Entry.ofLine? line.1 line.2)
  | [] => .nil
  | line :: lines => by
    have ih := forall₂_outcome lines
    rw [List.filter_cons, List.filterMap_cons]
    cases hx : Entry.ofLine? line.1 line.2 with
    | none =>
      have hnil := Entry.ofLine?_eq_none_iff.mp hx
      rw [if_neg (by simpa using hnil)]
      exact ih
    | some x =>
      have hne : Entry.textOf line.1 ≠ [] := by
        rw [ne_eq, ← Entry.ofLine?_eq_none_iff, hx]
        exact Option.some_ne_none x
      rw [if_pos (by simpa using hne)]
      exact .cons (Entry.outcome_of_ofLine? hx) ih

/-- A file has no more results than characters. -/
theorem length_results_le (src : List Char) : (results src).length ≤ src.length :=
  calc (results src).length
      ≤ (Text.numberedLines src).length := List.length_filterMap_le _ _
    _ = (Text.lines src).length := List.length_zipIdx
    _ ≤ src.length := Text.length_lines_le src

theorem map_numberOf_eq {ls : List (List Char × Nat)} {xs : List (Except FormatError Entry)}
    (h : List.Forall₂ Entry.Outcome ls xs) : xs.map Entry.numberOf = ls.map (·.2) := by
  induction h with
  | nil => rfl
  | cons hx _ ih => rw [List.map_cons, List.map_cons, hx.numberOf_eq, ih]

/-- Consecutive numbers increase. -/
theorem pairwise_zipIdx {α : Type} :
    ∀ (l : List α) (n : Nat), (l.zipIdx n).Pairwise fun a b => a.2 < b.2
  | [], _ => .nil
  | _ :: l, n => by
    rw [List.zipIdx_cons, List.pairwise_cons]
    exact ⟨fun _ hb => List.le_snd_of_mem_zipIdx hb, pairwise_zipIdx l (n + 1)⟩

/-- The numbers of the results increase. -/
theorem pairwise_numberOf (src : List Char) :
    ((results src).map Entry.numberOf).Pairwise (· < ·) := by
  rw [results, map_numberOf_eq (forall₂_outcome _), List.pairwise_map]
  exact (pairwise_zipIdx _ 1).filter _

/-! ## Calling a reader -/

namespace Reader

/-- What a reader still has to give. -/
def remaining (r : Reader) : List (Except FormatError Entry) :=
  r.rest.filterMap fun line => Entry.ofLine? line.1 line.2

/-- What a call gives for the next result and the entry that is handed in: whether there is an
entry, and the entry afterwards. -/
def answer (t : Entry) : Option (Except FormatError Entry) → Except FormatError Bool × Entry
  | none => (.ok false, t)
  | some (.error e) => (.error e, t)
  | some (.ok entry) => (.ok true, entry)

/-- The answers to calls one after the other, each with an entry that is handed in. -/
def calls (r : Reader) : List Entry → List (Except FormatError Bool × Entry)
  | [] => []
  | t :: ts =>
    let (x, r') := next { r with current := t }
    (x, r'.current) :: r'.calls ts

/-- **A call answers the next result and leaves the others.** By induction on the lines that are
left: those without a result are passed over. -/
theorem next_eq (r : Reader) :
    (r.next.1, r.next.2.current) = answer r.current r.remaining.head? ∧
      r.next.2.remaining = r.remaining.tail := by
  have key : ∀ (t : Entry) (lines : List (List Char × Nat)),
      ((advance t lines).1, (advance t lines).2.current) = answer t (remaining ⟨lines, t⟩).head? ∧
        (advance t lines).2.remaining = (remaining ⟨lines, t⟩).tail := by
    intro t lines
    induction lines with
    | nil => exact ⟨rfl, rfl⟩
    | cons line lines ih =>
      unfold advance
      cases hx : Entry.ofLine? line.1 line.2 with
      | none =>
        have hrest : remaining ⟨line :: lines, t⟩ = remaining ⟨lines, t⟩ := by
          simp only [remaining, List.filterMap_cons, hx]
        rw [hrest]
        exact ih
      | some x =>
        have hrest : remaining ⟨line :: lines, t⟩ = x :: remaining ⟨lines, t⟩ := by
          simp only [remaining, List.filterMap_cons, hx]
        rw [hrest]
        cases x <;> exact ⟨rfl, rfl⟩
  exact key r.current r.rest

/-- **The calls answer the results in order, and after the last one that there are no more.** -/
theorem getElem?_calls (r : Reader) (ts : List Entry) (i : Nat) :
    (r.calls ts)[i]? = ts[i]?.map fun t => answer t r.remaining[i]? := by
  induction ts generalizing r i with
  | nil => rfl
  | cons t ts ih =>
    obtain ⟨hanswer, hrest⟩ := next_eq { r with current := t }
    unfold calls
    cases i with
    | zero =>
      rw [List.getElem?_cons_zero, List.getElem?_cons_zero, Option.map_some, hanswer,
        List.head?_eq_getElem?]
      rfl
    | succ i =>
      rw [List.getElem?_cons_succ, List.getElem?_cons_succ, ih, hrest, List.getElem?_tail]
      rfl

end Reader

/-- **An expectation file is read completely and in order.** Its results are the outcomes of the
lines with more than a comment on them, with increasing numbers, and an error names the file and
the line. However often a reader is called and whatever entries are handed in, the calls answer one
result after the other and then, for ever, that there are no more; an entry that is handed in is
replaced by one that is read and is left alone otherwise. -/
theorem reads_completely (file src : List Char) :
    List.Forall₂ Entry.Outcome
        (((Text.lines src).zipIdx 1).filter fun line =>
          Text.trim (Text.before '#' line.1) ≠ []) (results src) ∧
      ((results src).map Entry.numberOf).Pairwise (· < ·) ∧
      (∀ e, .error e ∈ results src → ∃ reason : List Char,
        (e.message file).toList
          = "error: ".toList ++ reason ++ ", ".toList ++ file ++ ':' :: Text.decimal e.line) ∧
      ∀ (ts : List Entry) (i : Nat),
        ((Reader.ofText src).calls ts)[i]? =
          ts[i]?.map fun t => Reader.answer t (results src)[i]? :=
  ⟨forall₂_outcome _, pairwise_numberOf src,
    fun e _ => ⟨e.fault.message.toList, e.toList_message file⟩,
    (Reader.ofText src).getElem?_calls⟩

/-- A file with an entry, a faulty line and another entry is read in three calls. A fourth call
keeps the entry that is handed in, as the call that meets the faulty line does. -/
example :
    let kept : Entry := { line := 9, name := "kept".toList }
    ((Reader.ofText "a: x | y # +m\n# none\nb c: z\n\nd:".toList).calls
        [kept, kept, kept, kept]).map (fun answer => (answer.1.toOption, answer.2))
      = [(some true, ⟨1, ['a'], [['x'], ['y']], "+m".toList⟩), (none, kept),
        (some true, ⟨5, ['d'], [[]], []⟩), (some false, kept)] := by
  decide

end Expectation

end OpcodeForms
