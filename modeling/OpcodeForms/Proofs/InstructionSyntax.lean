import Mathlib.Data.List.Induction
import OpcodeForms.Proofs.Invariants
import OpcodeForms.Proofs.Literals
import OpcodeForms.Proofs.Tables

/-!
# The structure of instruction strings

An instruction string shows its operands one after the other. Each of them is an `OperandPiece`: the
text of its kind, with a number if it is a vector register, and what an EVEX form shows at it.
`Info.Shows` says which pieces a decoded record is shown by, without a word on how they are put
together: the numbers are 1, 2, 3 and so on over all pieces, and each `Decoration` has its place.

An instruction string is made of these pieces, and cut at its commas it gives them back
(`Info.instructionText_of_table`).
-/

namespace OpcodeForms

/-! ## Cutting at commas -/

namespace Text

variable {s t : List Char} {ss : List (List Char)}

/-- The pieces of a text between the commas that a space follows. -/
def splitCommas : List Char → List (List Char)
  | ',' :: ' ' :: r => [] :: splitCommas r
  | c :: r => (splitCommas r).modifyHead (c :: ·)
  | [] => [[]]

theorem splitCommas_cons {c : Char} (hc : c ≠ ',') (s : List Char) :
    splitCommas (c :: s) = (splitCommas s).modifyHead (c :: ·) := by
  rw [splitCommas]
  intro r h
  exact absurd h hc

theorem splitCommas_of_not_mem (h : ',' ∉ s) : splitCommas s = [s] := by
  induction s with
  | nil => rfl
  | cons c s ih =>
    obtain ⟨hc, hs⟩ := List.ne_and_not_mem_of_not_mem_cons h
    rw [splitCommas_cons (Ne.symm hc), ih hs]
    rfl

theorem splitCommas_append (h : ',' ∉ s) (t : List Char) :
    splitCommas (s ++ ',' :: ' ' :: t) = s :: splitCommas t := by
  induction s with
  | nil => rfl
  | cons c s ih =>
    obtain ⟨hc, hs⟩ := List.ne_and_not_mem_of_not_mem_cons h
    rw [List.cons_append, splitCommas_cons (Ne.symm hc), ih hs]
    rfl

/-- **A text that was put together from pieces without commas is cut back into them.** -/
theorem splitCommas_intercalate (hne : ss ≠ []) (h : ∀ s ∈ ss, ',' ∉ s) :
    splitCommas (", ".toList.intercalate ss) = ss := by
  induction ss with
  | nil => exact absurd rfl hne
  | cons s ss ih =>
    obtain ⟨hs, hss⟩ := List.forall_mem_cons.mp h
    cases ss with
    | nil =>
      rw [List.intercalate_singleton]
      exact splitCommas_of_not_mem hs
    | cons t ss =>
      rw [List.intercalate_cons_cons, List.append_assoc]
      exact (splitCommas_append hs _).trans (congrArg (s :: ·) (ih (List.cons_ne_nil t ss) hss))

end Text

/-! ## Pieces -/

/-- What an EVEX form can show at an operand. -/
inductive Decoration where
  | opmask
  | zeroing
  | broadcast32
  | broadcast64
  | rounding
  | suppression
deriving DecidableEq

namespace Decoration

/-- All decorations, in the order in which an operand shows them. -/
def all : List Decoration :=
  [opmask, zeroing, broadcast32, broadcast64, rounding, suppression]

/-- The text of the decoration. -/
def text : Decoration → List Char
  | opmask => " \x7bk1\x7d".toList
  | zeroing => "\x7bz\x7d".toList
  | broadcast32 => "/m32bcst".toList
  | broadcast64 => "/m64bcst".toList
  | rounding => "\x7ber\x7d".toList
  | suppression => "\x7bsae\x7d".toList

end Decoration

/-- The text of a kind. The number is that of a vector register. -/
def OperandText.write : OperandText → Option Nat → List Char
  | .fixed text, _ => text.toList
  | .numbered cls memory, n => cls.toList ++ Text.decimal (n.getD 0) ++ memory.toList

/-- An operand as an instruction string shows it. -/
structure OperandPiece where
  kind : OperandKind
  /-- The number of the operand among the vector registers. -/
  number : Option Nat
  decorations : List Decoration
deriving DecidableEq

/-- The text of the piece: that of its kind, followed by its decorations. -/
def OperandPiece.text (piece : OperandPiece) : List Char :=
  piece.kind.shape.write piece.number ++ piece.decorations.flatMap Decoration.text

namespace Info

variable {info : Info} {i : Nat}

/-- The operand with index `i` is the last one that is a vector register or memory of its size. -/
def IsLastVectorOrMem (info : Info) (i : Nat) : Prop :=
  (∃ k, info.operands[i]? = some k ∧ k.isVectorOrMem = true) ∧
    ∀ j k, i < j → info.operands[j]? = some k → k.isVectorOrMem = false

/-- The decoration belongs to the operand with index `i`: masking to the first one, broadcast to the
last one that can be a vector in memory, and rounding to the last one. -/
def Decorates (info : Info) (i : Nat) : Decoration → Prop
  | .opmask => i = 0 ∧ info.has .opMaskRegister = true
  | .zeroing => i = 0 ∧ info.has .zeroingMasking = true
  | .broadcast32 => info.IsLastVectorOrMem i ∧ info.has .broadcast = true ∧ info.w = 0
  | .broadcast64 => info.IsLastVectorOrMem i ∧ info.has .broadcast = true ∧ info.w = 1
  | .rounding => i + 1 = info.operands.length ∧ info.has .roundingControl = true
  | .suppression => i + 1 = info.operands.length ∧ info.has .suppressAllExceptions = true ∧
      info.has .roundingControl = false

/-- The pieces are those that show the operands of the decoded record. -/
structure Shows (info : Info) (pieces : List OperandPiece) : Prop where
  /-- There is a piece for each operand, in slot order. -/
  kinds : pieces.map (·.kind) = info.operands
  /-- The vector registers are numbered, and no other operands are. -/
  numbered : ∀ piece ∈ pieces, piece.number.isSome = true ↔
    ∃ cls ∈ ["mm", "xmm", "ymm", "zmm"], ∃ memory, piece.kind.shape = .numbered cls memory
  /-- The numbers are 1, 2, 3 and so on, over all classes of vector registers. -/
  numbers : ∃ count, pieces.filterMap (·.number) = List.range' 1 count
  /-- Each decoration stands where it belongs, and only at EVEX forms. -/
  decorations : ∀ i piece, pieces[i]? = some piece → ∀ d,
    d ∈ piece.decorations ↔ info.encoding = .evex ∧ info.Decorates i d
  order : ∀ piece ∈ pieces, piece.decorations.Sublist Decoration.all

/-! ## Numbers -/

/-- The operands with their numbers, after `n` numbered ones. -/
def numberFrom (n : Nat) : List OperandKind → List (OperandKind × Option Nat)
  | [] => []
  | k :: ks =>
    match k.shape with
    | .fixed _ => (k, none) :: numberFrom n ks
    | .numbered _ _ => (k, some (n + 1)) :: numberFrom (n + 1) ks

theorem map_fst_numberFrom (n : Nat) (ks : List OperandKind) :
    (numberFrom n ks).map (·.1) = ks := by
  induction ks generalizing n with
  | nil => rfl
  | cons k ks ih =>
    unfold numberFrom
    split <;> rw [List.map_cons, ih]

theorem operandTexts_eq (n : Nat) (ks : List OperandKind) :
    operandTexts n ks = (numberFrom n ks).map fun x => x.1.shape.write x.2 := by
  induction ks generalizing n with
  | nil => rfl
  | cons k ks ih =>
    unfold operandTexts numberFrom
    cases hshape : k.shape with
    | fixed text | numbered cls memory =>
      simp only [List.map_cons, hshape, ih]
      rfl

/-- **The numbers count on from those before, without a gap.** -/
theorem exists_numbers (n : Nat) (ks : List OperandKind) :
    ∃ count, (numberFrom n ks).filterMap (·.2) = List.range' (n + 1) count := by
  induction ks generalizing n with
  | nil => exact ⟨0, rfl⟩
  | cons k ks ih =>
    unfold numberFrom
    split
    · exact ih n
    · obtain ⟨count, hcount⟩ := ih (n + 1)
      refine ⟨count + 1, ?_⟩
      rw [List.filterMap_cons, hcount]
      rfl

theorem isSome_of_mem_numberFrom {n : Nat} {ks : List OperandKind}
    {x : OperandKind × Option Nat} (h : x ∈ numberFrom n ks) :
    x.2.isSome = true ↔ ∃ cls memory, x.1.shape = .numbered cls memory := by
  induction ks generalizing n with
  | nil => cases h
  | cons k ks ih =>
    unfold numberFrom at h
    split at h
    · next hshape =>
      rcases List.mem_cons.mp h with rfl | h
      · simp [hshape]
      · exact ih h
    · next cls memory hshape =>
      rcases List.mem_cons.mp h with rfl | h
      · exact iff_of_true rfl ⟨cls, memory, hshape⟩
      · exact ih h

/-- The registers that are numbered are those of four classes. -/
theorem cls_mem {k : OperandKind} {cls memory : String} (h : k.shape = .numbered cls memory) :
    cls ∈ ["mm", "xmm", "ymm", "zmm"] := by
  cases k <;> cases h <;> decide

/-! ## Decorations -/

theorem getElem?_append_singleton_iff {α : Type} {l : List α} {a b : α} {j : Nat} :
    (l ++ [a])[j]? = some b ↔ l[j]? = some b ∨ j = l.length ∧ b = a := by
  rcases Nat.lt_trichotomy j l.length with hj | hj | hj
  · rw [List.getElem?_append_left hj, or_iff_left fun h => Nat.ne_of_lt hj h.1]
  · rw [hj, List.getElem?_concat_length, List.getElem?_eq_none (Nat.le_refl _)]
    simp [eq_comm]
  · have hlength : (l ++ [a]).length ≤ j := by
      rw [List.length_append]
      exact hj
    rw [List.getElem?_eq_none hlength, List.getElem?_eq_none (Nat.le_of_lt hj)]
    simp [Nat.ne_of_gt hj]

/-- The index of the last element of which a condition holds. -/
theorem getLast?_filter_zipIdx_iff {α : Type} {P : α → Bool} {l : List α} {i : Nat} :
    (l.zipIdx.filter (P ·.1)).getLast?.map (·.2) = some i ↔
      (∃ a, l[i]? = some a ∧ P a = true) ∧ ∀ j a, i < j → l[j]? = some a → P a = false := by
  -- from the end: the last element decides if the condition holds of it
  induction l using List.reverseRecOn with
  | nil => simp
  | append_singleton l a ih =>
    rw [List.zipIdx_append, List.filter_append, List.zipIdx_singleton, Nat.zero_add]
    simp only [getElem?_append_singleton_iff]
    cases ha : P a with
    | true =>
      rw [List.filter_cons_of_pos (by exact ha), List.filter_nil, List.getLast?_concat,
        Option.map_some, Option.some.injEq]
      constructor
      · rintro rfl
        refine ⟨⟨a, .inr ⟨rfl, rfl⟩, ha⟩, ?_⟩
        rintro j b hj (hb | ⟨rfl, -⟩)
        · have hlt := (List.getElem?_eq_some_iff.mp hb).1
          exact absurd hlt (Nat.not_lt_of_lt hj)
        · exact absurd hj (Nat.lt_irrefl _)
      · rintro ⟨⟨b, hb | ⟨rfl, -⟩, -⟩, hlast⟩
        · have hlt := (List.getElem?_eq_some_iff.mp hb).1
          rw [hlast _ a hlt (.inr ⟨rfl, rfl⟩)] at ha
          cases ha
        · rfl
    | false =>
      rw [List.filter_cons_of_neg (by simp [ha]), List.filter_nil, List.append_nil, ih]
      constructor
      · rintro ⟨⟨b, hb, hPb⟩, hlast⟩
        refine ⟨⟨b, .inl hb, hPb⟩, ?_⟩
        rintro j c hj (hc | ⟨-, rfl⟩)
        · exact hlast j c hj hc
        · exact ha
      · rintro ⟨⟨b, hb | ⟨-, rfl⟩, hPb⟩, hlast⟩
        · exact ⟨⟨b, hb, hPb⟩, fun j c hj hc => hlast j c hj (.inl hc)⟩
        · rw [ha] at hPb
          cases hPb

theorem lastVectorOrMem?_eq_some_iff :
    info.lastVectorOrMem? = some i ↔ info.IsLastVectorOrMem i :=
  getLast?_filter_zipIdx_iff

instance (info : Info) (i : Nat) : Decidable (info.IsLastVectorOrMem i) :=
  decidable_of_iff _ lastVectorOrMem?_eq_some_iff

instance (info : Info) (i : Nat) : (d : Decoration) → Decidable (info.Decorates i d)
  | .opmask | .zeroing => inferInstanceAs (Decidable (_ ∧ _))
  | .broadcast32 | .broadcast64 => inferInstanceAs (Decidable (_ ∧ _ ∧ _))
  | .rounding => inferInstanceAs (Decidable (_ ∧ _))
  | .suppression => inferInstanceAs (Decidable (_ ∧ _ ∧ _))

/-- The decorations of the operand with index `i`. -/
def decorationsAt (info : Info) (i : Nat) : List Decoration :=
  Decoration.all.filter fun d => info.encoding = .evex ∧ info.Decorates i d

theorem w_eq (info : Info) : info.w = 0 ∨ info.w = 1 := by
  unfold w
  split
  · exact .inr rfl
  · exact .inl rfl

/-- The decorations of `ds` that belong to an operand, as text. -/
def decorationText (info : Info) (i : Nat) (ds : List Decoration) : List Char :=
  (ds.filter fun d => info.Decorates i d).flatMap Decoration.text

theorem decorationText_cons (info : Info) (i : Nat) (d : Decoration) (ds : List Decoration) :
    info.decorationText i (d :: ds)
      = (if info.Decorates i d then d.text else []) ++ info.decorationText i ds := by
  unfold decorationText
  rw [List.filter_cons]
  by_cases h : info.Decorates i d
  · rw [if_pos h, if_pos (decide_eq_true h), List.flatMap_cons]
  · rw [if_neg h, if_neg (by simpa using h), List.nil_append]

theorem decorationText_pair (info : Info) (i : Nat) (c d : Decoration) :
    info.decorationText i [c, d]
      = (if info.Decorates i c then c.text else [])
        ++ if info.Decorates i d then d.text else [] := by
  rw [decorationText_cons, decorationText_cons]
  exact congrArg _ (List.append_nil _)

theorem decorationText_masking (info : Info) (i : Nat) :
    info.decorationText i [.opmask, .zeroing] = if i = 0 then info.maskingText else [] := by
  have hopmask : info.Decorates i .opmask ↔ i = 0 ∧ info.has .opMaskRegister = true := Iff.rfl
  have hzeroing : info.Decorates i .zeroing ↔ i = 0 ∧ info.has .zeroingMasking = true := Iff.rfl
  rw [decorationText_pair]
  by_cases hi : i = 0
  · rw [if_pos hi]
    simp only [hopmask, hzeroing, and_iff_right hi]
    rfl
  · simp only [hopmask, hzeroing, hi, false_and, if_false, List.append_nil]

theorem decorationText_broadcast (info : Info) (i : Nat) :
    info.decorationText i [.broadcast32, .broadcast64]
      = if info.has .broadcast && info.lastVectorOrMem? = some i then info.broadcastText
        else [] := by
  have h32 : info.Decorates i .broadcast32 ↔
      info.IsLastVectorOrMem i ∧ info.has .broadcast = true ∧ info.w = 0 := Iff.rfl
  have h64 : info.Decorates i .broadcast64 ↔
      info.IsLastVectorOrMem i ∧ info.has .broadcast = true ∧ info.w = 1 := Iff.rfl
  rw [decorationText_pair]
  simp only [h32, h64, Bool.and_eq_true, decide_eq_true_iff, lastVectorOrMem?_eq_some_iff]
  by_cases h : info.has .broadcast = true ∧ info.IsLastVectorOrMem i
  · have htext : ∀ w, info.w = w → info.broadcastText
        = "/m".toList ++ Text.decimal (32 <<< w) ++ "bcst".toList := by
      rintro w rfl
      rfl
    simp only [h.1, h.2, true_and, and_self, if_true]
    rcases info.w_eq with hw | hw
    · rw [if_pos hw, if_neg (by omega), htext 0 hw]
      rfl
    · rw [if_neg (by omega), if_pos hw, htext 1 hw]
      rfl
  · rw [if_neg fun h' => h ⟨h'.2.1, h'.1⟩, if_neg fun h' => h ⟨h'.2.1, h'.1⟩, if_neg h]
    rfl

theorem decorationText_rounding (info : Info) (i : Nat) :
    info.decorationText i [.rounding, .suppression]
      = if i + 1 = info.operands.length then info.roundingText else [] := by
  have hrounding : info.Decorates i .rounding ↔
      i + 1 = info.operands.length ∧ info.has .roundingControl = true := Iff.rfl
  have hsuppression : info.Decorates i .suppression ↔
      i + 1 = info.operands.length ∧ info.has .suppressAllExceptions = true ∧
        info.has .roundingControl = false := Iff.rfl
  rw [decorationText_pair]
  by_cases hi : i + 1 = info.operands.length
  · simp only [hrounding, hsuppression, hi, true_and, if_true, roundingText]
    cases info.has .roundingControl with
    | true => simp only [if_true, reduceCtorEq, and_false, if_false, List.append_nil]; rfl
    | false => simp only [Bool.false_eq_true, and_true, if_false, List.nil_append]; rfl
  · simp only [hrounding, hsuppression, hi, false_and, if_false, List.append_nil]

/-- **The decorations of an operand make up its decoration.** -/
theorem flatMap_decorationsAt (info : Info) (i : Nat) :
    (info.decorationsAt i).flatMap Decoration.text
      = if info.encoding = .evex then info.decoration i else [] := by
  by_cases he : info.encoding = .evex
  · have hfilter : info.decorationsAt i = Decoration.all.filter fun d => info.Decorates i d := by
      simp [decorationsAt, he]
    have hall : Decoration.all = [.opmask, .zeroing] ++ [.broadcast32, .broadcast64]
        ++ [.rounding, .suppression] := rfl
    rw [if_pos he, decoration, ← decorationText_masking, ← decorationText_broadcast,
      ← decorationText_rounding, hfilter, hall, List.filter_append, List.filter_append,
      List.flatMap_append, List.flatMap_append]
    rfl
  · simp [decorationsAt, he]

/-! ## The pieces of a decoded record -/

/-- The pieces that show the operands of a decoded record. -/
def pieces (info : Info) : List OperandPiece :=
  (numberFrom 0 info.operands).mapIdx fun i x =>
    { kind := x.1, number := x.2, decorations := info.decorationsAt i }

theorem length_pieces (info : Info) : info.pieces.length = info.operands.length := by
  have hlength := congrArg List.length (map_fst_numberFrom 0 info.operands)
  rw [List.length_map] at hlength
  rw [pieces, List.length_mapIdx, hlength]

theorem getElem?_pieces (info : Info) (i : Nat) :
    info.pieces[i]? = (numberFrom 0 info.operands)[i]?.map fun x =>
      { kind := x.1, number := x.2, decorations := info.decorationsAt i } :=
  List.getElem?_mapIdx

/-- What does not depend on the decorations can be read off the numbered operands. -/
theorem map_pieces {β : Type} (info : Info) (f : OperandPiece → β)
    (g : OperandKind × Option Nat → β)
    (h : ∀ k n ds, f { kind := k, number := n, decorations := ds } = g (k, n)) :
    info.pieces.map f = (numberFrom 0 info.operands).map g := by
  refine List.ext_getElem? fun i => ?_
  rw [List.getElem?_map, List.getElem?_map, getElem?_pieces, Option.map_map]
  exact congrArg (Option.map · _) (funext fun x => h x.1 x.2 _)

/-- **The pieces show the operands.** -/
theorem shows_pieces (info : Info) : info.Shows info.pieces where
  kinds := (info.map_pieces _ (·.1) fun _ _ _ => rfl).trans (map_fst_numberFrom 0 _)
  numbered := by
    intro piece hpiece
    obtain ⟨i, hi, rfl⟩ := List.mem_mapIdx.mp hpiece
    rw [isSome_of_mem_numberFrom (List.getElem_mem hi)]
    constructor
    · rintro ⟨cls, memory, h⟩
      exact ⟨cls, cls_mem h, memory, h⟩
    · rintro ⟨cls, -, memory, h⟩
      exact ⟨cls, memory, h⟩
  numbers := by
    have hnumbers := congrArg (List.filterMap id)
      (info.map_pieces (·.number) (·.2) fun _ _ _ => rfl)
    rw [List.filterMap_map, List.filterMap_map] at hnumbers
    obtain ⟨count, hcount⟩ := exists_numbers 0 info.operands
    exact ⟨count, hnumbers.trans hcount⟩
  decorations := by
    intro i piece hpiece d
    rw [getElem?_pieces] at hpiece
    obtain ⟨x, -, rfl⟩ := Option.map_eq_some_iff.mp hpiece
    have hall : d ∈ Decoration.all := by cases d <;> decide
    simp [decorationsAt, hall]
  order := by
    intro piece hpiece
    obtain ⟨i, hi, rfl⟩ := List.mem_mapIdx.mp hpiece
    exact List.filter_sublist

/-- The texts of the pieces are those of the operands. -/
theorem map_text_pieces (info : Info) :
    info.pieces.map OperandPiece.text = info.decoratedTexts := by
  refine List.ext_getElem? fun i => ?_
  rw [List.getElem?_map, getElem?_pieces, Option.map_map, decoratedTexts, List.getElem?_mapIdx,
    operandTexts_eq, List.getElem?_map, Option.map_map]
  refine congrArg (Option.map · _) (funext fun x => ?_)
  change x.1.shape.write x.2 ++ (info.decorationsAt i).flatMap Decoration.text = _
  rw [flatMap_decorationsAt]
  by_cases he : info.encoding = .evex
  · rw [if_pos he]
    exact (if_pos he).symm
  · rw [if_neg he, List.append_nil]
    exact (if_neg he).symm

end Info

/-! ## Memory operands -/

namespace OperandKind

variable {k : OperandKind}

/-- Memory is addressed through the ModRM byte. -/
theorem usesModrm_of_canBeMemory (h : k.canBeMemory = true) : k.usesModrm = true := by
  cases k <;> first | rfl | cases h

theorem canBeMemory_of_isVectorOrMem (h : k.isVectorOrMem = true) : k.canBeMemory = true := by
  cases k <;> first | rfl | cases h

/-- A numbered register stands for memory as well if its text says so. -/
theorem canBeMemory_iff_of_shape {cls memory : String} (h : k.shape = .numbered cls memory) :
    k.canBeMemory = true ↔ memory ≠ "" := by
  cases k <;> cases h <;> decide

end OperandKind

/-- **A broadcast is shown at an operand that can be memory.** -/
theorem Info.Shows.canBeMemory {info : Info} {pieces : List OperandPiece} {piece : OperandPiece}
    (h : info.Shows pieces) (hpiece : piece ∈ pieces)
    (hd : .broadcast32 ∈ piece.decorations ∨ .broadcast64 ∈ piece.decorations) :
    piece.kind.canBeMemory = true := by
  obtain ⟨i, hi⟩ := List.mem_iff_getElem?.mp hpiece
  have hlast : info.IsLastVectorOrMem i := by
    rcases hd with hd | hd <;> exact ((h.decorations i piece hi _).mp hd).2.1
  obtain ⟨⟨k, hk, hvector⟩, -⟩ := hlast
  have hkind : info.operands[i]? = some piece.kind := by
    rw [← h.kinds, List.getElem?_map, hi, Option.map_some]
  rw [hkind] at hk
  cases hk
  exact OperandKind.canBeMemory_of_isVectorOrMem hvector

/-- An instruction that shows a broadcast has a ModRM byte. -/
theorem Info.Shows.usesModrm {info : Info} {pieces : List OperandPiece} {piece : OperandPiece}
    (h : info.Shows pieces) (hpiece : piece ∈ pieces)
    (hd : .broadcast32 ∈ piece.decorations ∨ .broadcast64 ∈ piece.decorations) :
    info.usesModrm = true := by
  have hmem : piece.kind ∈ info.operands := h.kinds ▸ List.mem_map_of_mem hpiece
  have hmemory := h.canBeMemory hpiece hd
  exact List.any_eq_true.mpr ⟨piece.kind, hmem, OperandKind.usesModrm_of_canBeMemory hmemory⟩

/-! ## Strings -/

/-- No text of an operand has a comma. -/
theorem OperandPiece.not_mem_text (piece : OperandPiece) : ',' ∉ piece.text := by
  unfold text
  rw [List.mem_append, List.mem_flatMap]
  rintro (h | ⟨d, -, h⟩)
  · have hdigits : ∀ n, ',' ∉ Text.decimal n := fun _ => Text.not_mem_decimal rfl
    cases hkind : piece.kind <;>
      simp [hkind, OperandKind.shape, OperandText.write, hdigits] at h
  · cases d <;> revert h <;> decide

namespace Info

variable {form : Form} {p : Packed} {info : Info}

theorem instructionText_eq (h : info.isInstruction = true) :
    info.instructionText = Text.upper info.form.mnemonic ++
      if info.pieces = [] then []
      else ' ' :: ", ".toList.intercalate (info.pieces.map (·.text)) := by
  unfold instructionText
  rw [if_pos h, ← map_text_pieces]
  cases info.pieces with
  | nil => exact (List.append_nil _).symm
  | cons piece pieces => rfl

/-- **The structure of instruction strings.** Whatever record is decoded for an instruction of a
table, its instruction string shows the mnemonic and a piece for each operand, and the pieces can be
told apart. -/
theorem instructionText_of_table {src : List Char} {rs : List Record} {entry : Entry}
    (htable : Table.read src = .ok rs) (hentry : entry ∈ (Catalogue.ofRecords rs).entries)
    (hinstruction : entry.form.isInstruction = true) (h : decode entry.form p = .ok info) :
    ∃ pieces, info.Shows pieces ∧ pieces.length = entry.form.opCount ∧
      (entry.form.opCount = 0 → info.instructionText = Text.upper entry.form.mnemonic) ∧
      (entry.form.opCount ≠ 0 → ∃ tail,
        info.instructionText = Text.upper entry.form.mnemonic ++ ' ' :: tail ∧
        tail = ", ".toList.intercalate (pieces.map (·.text)) ∧
        Text.splitCommas tail = pieces.map (·.text)) := by
  have hd := decode_eq_ok_iff.mp h
  have htext := instructionText_eq (hd.isInstruction_eq.trans hinstruction)
  rw [hd.form_eq] at htext
  have hlength : info.pieces.length = entry.form.opCount := by
    rw [length_pieces, operands, List.length_take, hd.length_slots, hd.form_eq]
    exact Nat.min_eq_left (Catalogue.opCount_le htable hentry)
  refine ⟨info.pieces, info.shows_pieces, hlength, ?_, ?_⟩
  · intro hcount
    rw [htext, if_pos (List.length_eq_zero_iff.mp (hlength.trans hcount)), List.append_nil]
  · intro hcount
    have hne : info.pieces ≠ [] := fun hnil => hcount (hlength.symm.trans (hnil ▸ rfl))
    refine ⟨_, htext.trans (by rw [if_neg hne]), rfl, ?_⟩
    refine Text.splitCommas_intercalate (mt List.map_eq_nil_iff.mp hne) ?_
    intro s hs
    obtain ⟨piece, -, rfl⟩ := List.mem_map.mp hs
    exact piece.not_mem_text

/-- A table with an addition that has all decorations but one. -/
def additionTable : List Char :=
  "INVALID bad legacy op=00\n".toList
    ++ "Vaddps vaddps evex op=58 ll=2 tuple=Full_512 b er k1 z ops=VZ,HZ,WZ\n".toList
    ++ "DeclareByte db legacy op=00".toList

/-- The addition. -/
def additionForm : Form where
  code := 1
  name := "Vaddps".toList
  mnemonic := "vaddps".toList
  opCount := 3
  isInstruction := true

/-- The record of the addition. -/
def additionRecord : Packed where
  word1 := 0x580002
  word2 := 0x1b10c00
  word3 := 0x963

/-- The records of the table. -/
def additionRecords : List Record :=
  [{ name := "INVALID".toList, mnemonic := "bad".toList, encoding := .legacy, opCount := 0,
     packed := {} },
    { name := "Vaddps".toList, mnemonic := "vaddps".toList, encoding := .evex, opCount := 3,
      packed := additionRecord },
    { name := "DeclareByte".toList, mnemonic := "db".toList, encoding := .legacy, opCount := 0,
      packed := {} }]

theorem read_additionTable : Table.read additionTable = .ok additionRecords := by
  rfl

/-- What the three operands of the addition show. -/
theorem instructionText_of_table_addition :
    ∃ info pieces, decode additionForm additionRecord = .ok info ∧ info.Shows pieces ∧
      info.instructionText
        = "VADDPS zmm1 \x7bk1\x7d\x7bz\x7d, zmm2, zmm3/m512/m32bcst\x7ber\x7d".toList ∧
      pieces.map (·.text) = ["zmm1 \x7bk1\x7d\x7bz\x7d".toList, "zmm2".toList,
        "zmm3/m512/m32bcst\x7ber\x7d".toList] := by
  have hentry : { form := additionForm, packed := additionRecord }
      ∈ (Catalogue.ofRecords additionRecords).entries := by decide
  have hdecode : decode additionForm additionRecord = .ok {
      form := additionForm, encoding := .evex, opcode := 0x58, properties := ⟨0x1b07⟩
      length := 2, lengthKind := .l128, tupleType := .full512, table := .map0F
      mandatoryPrefix := .np, slots := [.zmmReg, .zmmVvvv, .zmmOrMem, .none, .none] } := by rfl
  obtain ⟨pieces, hshows, -, -, hpieces⟩ :=
    instructionText_of_table read_additionTable hentry rfl hdecode
  obtain ⟨tail, htext, -, hcut⟩ := hpieces (by decide)
  refine ⟨_, pieces, hdecode, hshows, by decide, ?_⟩
  rw [← hcut, List.cons_inj_right ' ' |>.mp (List.append_cancel_left htext.symm)]
  decide

end Info

end OpcodeForms
