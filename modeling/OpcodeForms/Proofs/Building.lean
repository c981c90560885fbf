import OpcodeForms.Proofs.Builder
import OpcodeForms.Proofs.Grammar

/-!
# Building records in place

No line gets a record under construction stuck. At any time its words hold what the attributes so
far are packed to (`Builder.of`): a step that writes a field changes the attribute that the field
holds (`Builder.write2_eq`), and a word changes what its assignment says (`Builder.token_eq`). So
the result is that of `Record.read` (`Builder.read_eq`).
-/

namespace OpcodeForms

open Enumeration (text)

/-! ## Overwriting a field of an assembled word -/

namespace Field

variable {f g : Field} {w v u : UInt32}

/-- What is written to a field last stays. -/
theorem set_set : f.set (f.set w u) v = f.set w v := by
  apply Bits.ext_bit
  intro i hi
  rw [bit_set _ _ _ hi, bit_set _ _ _ hi, bit_set _ _ _ hi]
  split <;> rfl

/-- Fields that do not overlap can be written in any order. -/
theorem set_comm (h : ¬ f.Overlaps g) : f.set (g.set w u) v = g.set (f.set w v) u := by
  apply Bits.ext_bit
  intro i hi
  rw [bit_set _ _ _ hi, bit_set _ _ _ hi, bit_set _ _ _ hi, bit_set _ _ _ hi]
  by_cases hf : f.Covers i
  · rw [if_pos hf, if_pos hf, if_neg (not_covers_of_not_overlaps h hf)]
  · rw [if_neg hf, if_neg hf]

end Field

namespace Attributes

variable {f : Field} {v w : UInt32}

/-- The parts with another value for a field. -/
def overwrite (f : Field) (v : UInt32) : List (Field × UInt32) → List (Field × UInt32)
  | [] => []
  | part :: parts => if part.1 = f then (f, v) :: parts else part :: overwrite f v parts

theorem set_foldl_set : ∀ {parts : List (Field × UInt32)} {w : UInt32},
    (∀ part ∈ parts, ¬ f.Overlaps part.1) →
      f.set (parts.foldl (fun w part => part.1.set w part.2) w) v
        = parts.foldl (fun w part => part.1.set w part.2) (f.set w v)
  | [], _, _ => rfl
  | part :: parts, w, h => by
    rw [List.foldl_cons, set_foldl_set fun q hq => h q (List.mem_cons_of_mem _ hq),
      Field.set_comm (h part List.mem_cons_self), List.foldl_cons]

/-- **Writing a field of an assembled word is assembling it with the new value.** -/
theorem set_assemble {parts : List (Field × UInt32)}
    (hparts : parts.Pairwise fun q r => ¬ q.1.Overlaps r.1) (hf : f ∈ parts.map (·.1)) :
    f.set (assemble parts) v = assemble (overwrite f v parts) := by
  -- the parts before the field have been written when it is reached, so the word varies
  have key : ∀ w : UInt32, f.set (parts.foldl (fun w part => part.1.set w part.2) w) v
      = (overwrite f v parts).foldl (fun w part => part.1.set w part.2) w := by
    induction parts with
    | nil => cases hf
    | cons part parts ih =>
      obtain ⟨hpart, hparts⟩ := List.pairwise_cons.mp hparts
      intro w
      rw [List.foldl_cons, overwrite]
      by_cases heq : part.1 = f
      · rw [if_pos heq, heq, set_foldl_set (heq ▸ hpart), Field.set_set, List.foldl_cons]
      · rw [if_neg heq, List.foldl_cons]
        refine ih hparts ?_ _
        exact (List.mem_cons.mp hf).resolve_left fun h => heq h.symm
  exact key 0

end Attributes

namespace Builder

open Checked (defined lift_some)

/-! ## What the words hold -/

/-- The record under construction when the line has given the attributes `a`. -/
def of (e : Encoding) (a : Attributes) (keys : List (List Char)) : Builder where
  encoding := e
  word1 := (a.pack e).word1
  word2 := (a.pack e).word2
  word3 := (a.pack e).word3
  opCount := UInt8.ofNat (a.opCount e)
  hasOpcode := a.opcode.isSome
  keys := keys

variable {e : Encoding} {a a' : Attributes} {keys : List (List Char)} {f : Field} {v : UInt32}
  {key value : List Char}

theorem new_eq (e : Encoding) : new e = some (of e {} []) := by
  cases e <;> rfl

/-- The attributes differ in the value of the field `f` of the second word only. -/
structure Writes (e : Encoding) (f : Field) (v : UInt32) (a a' : Attributes) : Prop where
  fits : v ≤ f.max
  parts : a'.parts e = Attributes.overwrite f v (a.parts e)
  opcode : a'.opcode = a.opcode
  operands : a'.operands = a.operands

theorem Writes.of_eq (h : Writes e f v a a') :
    of e a' keys = { of e a keys with word2 := (a'.pack e).word2 } := by
  unfold of Attributes.pack Attributes.opCount
  rw [h.opcode, h.operands]

/-- **Writing a field changes the attribute that it holds.** -/
theorem write2_eq (h : Writes e f v a a') (hf : f ∈ Attributes.partFields e := by decide) :
    (of e a keys).write2 f v = defined (.ok (of e a' keys)) := by
  have hmem : f ∈ (a.parts e).map (·.1) := by rwa [Attributes.map_fst_parts]
  have hset : f.set (a.pack e).word2 v = (a'.pack e).word2 := by
    change f.set (Attributes.assemble (a.parts e)) v = Attributes.assemble (a'.parts e)
    rw [Attributes.set_assemble (Attributes.pairwise_parts a e) hmem, h.parts]
  have hwrite : f.write? (of e a keys).word2 v = some (a'.pack e).word2 := by
    rw [← hset]
    exact Field.write?_eq h.fits
  rw [write2, hwrite, h.of_eq]
  rfl

/-! ## Words of a line -/

/-- What is built when the line is extended by a word, given the assignment that it makes. -/
def extend (e : Encoding) (a : Attributes) (keys : List (List Char))
    (x : Except RecordError Assignment) : Checked RecordError Builder :=
  defined (x.map fun x => of e (a.assign x) keys)

theorem setMember_eq {α : Type} [DecidableEq α] [Enumeration α] {make : α → Assignment}
    (hwrites : ∀ m, Writes e f (Attributes.rawWord m) a (a.assign (make m)))
    (hf : f ∈ Attributes.partFields e := by decide) :
    (of e a keys).setMember α f key value
      = extend e a keys (((Enumeration.ofName? value : Option α).map make).elim
        (.error (.invalidValue key value)) .ok) := by
  unfold setMember
  cases (Enumeration.ofName? value : Option α) with
  | none => rfl
  | some m => exact write2_eq (hwrites m) hf

theorem rawWord_le_max {α : Type} [DecidableEq α] [Enumeration α] (m : α)
    (hcount : Enumeration.count α ≤ 2 ^ f.size := by decide) : Attributes.rawWord m ≤ f.max := by
  have hword : Enumeration.count α ≤ 2 ^ 32 :=
    Nat.le_trans hcount (Nat.pow_le_pow_right (by decide) f.size_le)
  rw [Field.le_max_iff, Attributes.toNat_rawWord m hword]
  exact Nat.lt_of_lt_of_le (Enumeration.raw_lt m) hcount

theorem ofNat_le {n : Nat} {bound : UInt32} (h : n ≤ bound.toNat) : UInt32.ofNat n ≤ bound := by
  rw [UInt32.le_iff_toNat_le, Bits.toNat_ofNat_of_lt (Nat.lt_of_le_of_lt h bound.toNat_lt)]
  exact h

/-- A number is written as it is read, if what follows writes every number up to the bound. -/
theorem hex_bind {make : Nat → Assignment} {bound : UInt32}
    {g : UInt32 → Checked RecordError Builder}
    (hg : ∀ n, UInt32.ofNat n ≤ bound →
      g (UInt32.ofNat n) = defined (.ok (of e (a.assign (make n)) keys))) :
    (hex key value bound >>= g)
      = extend e a keys (((Text.hexAtMost? bound.toNat value).map make).elim
        (.error (.invalidValue key value)) .ok) := by
  unfold hex
  cases hn : Text.hexAtMost? bound.toNat value with
  | none => rfl
  | some n => exact hg n (ofNat_le (Text.le_of_hexAtMost? hn))

theorem write_opcode {n : Nat} (h : UInt32.ofNat n ≤ Layout.opcode.max) :
    Layout.opcode.write? (a.pack e).word1 (UInt32.ofNat n)
      = some ((a.assign (.opcode n)).pack e).word1 := by
  rw [Field.write?_eq h]
  exact congrArg some (Attributes.set_assemble (Attributes.pairwise_word1 _ _)
    (List.mem_cons_of_mem _ List.mem_cons_self))

/-- The group takes two fields. In between, the record has the group that it has without one. -/
theorem write_group {fs : Layout.Shared} (hfs : Layout.shared? e = some fs) {n : Nat}
    (h : UInt32.ofNat n ≤ fs.group.max) :
    ((of e a keys).write2 fs.hasGroup 1 >>= fun b => b.write2 fs.group (UInt32.ofNat n))
      = defined (.ok (of e (a.assign (.group n)) keys)) := by
  have hhas : (of e a keys).write2 fs.hasGroup 1
      = defined (.ok (of e { a with group := some (a.group.getD 0) } keys)) := by
    cases e with
    | threeDNow => cases hfs
    | legacy | vex | evex | xop =>
      cases hfs
      exact write2_eq ⟨by decide, rfl, rfl, rfl⟩
  have hgroup : (of e { a with group := some (a.group.getD 0) } keys).write2 fs.group
      (UInt32.ofNat n) = defined (.ok (of e (a.assign (.group n)) keys)) := by
    cases e with
    | threeDNow => cases hfs
    | legacy | vex | evex | xop =>
      cases hfs
      exact write2_eq ⟨h, rfl, rfl, rfl⟩
  rw [hhas]
  exact hgroup

/-- **A key that the encoding does not have is an error.** -/
theorem setKey_eq_of_not_isFor {k : Key} (h : k.isFor e = false) :
    (of e a keys).setKey k key value = throw (.unexpectedKey e key) := by
  cases k <;> cases e <;> first | rfl | cases h

/-- **A key, other than that of the operands, is written as it is read.** -/
theorem setKey_eq {k : Key} (hfor : k.isFor e = true) (hops : k ≠ .operands) :
    (of e a keys).setKey k key value = extend e a keys ((Assignment.value? e k value).elim
      (.error (.invalidValue key value)) .ok) := by
  cases k with
  | operands => exact absurd rfl hops
  | opcode =>
    refine hex_bind fun n hn => ?_
    change (liftM (Layout.opcode.write? (a.pack e).word1 (UInt32.ofNat n)) >>= _) = _
    rw [write_opcode hn]
    cases e <;> rfl
  | encodable =>
    cases e <;> exact setMember_eq fun m => ⟨rawWord_le_max m, rfl, rfl, rfl⟩
  | prefixByte =>
    cases e with
    | threeDNow => cases hfor
    | legacy | vex | evex | xop => exact setMember_eq fun m => ⟨rawWord_le_max m, rfl, rfl, rfl⟩
  | table =>
    cases e with
    | threeDNow => cases hfor
    | legacy | vex | evex | xop => exact setMember_eq fun m => ⟨rawWord_le_max m, rfl, rfl, rfl⟩
  | group =>
    cases e with
    | threeDNow => cases hfor
    | legacy | vex | evex | xop => exact hex_bind fun n hn => write_group rfl hn
  | allowedPrefixes | operandSize | addressSize =>
    cases e with
    | legacy => exact setMember_eq fun m => ⟨rawWord_le_max m, rfl, rfl, rfl⟩
    | vex | evex | xop | threeDNow => cases hfor
  | length =>
    cases e with
    | vex | xop => exact setMember_eq fun m => ⟨rawWord_le_max m, rfl, rfl, rfl⟩
    | legacy | evex | threeDNow => cases hfor
  | w =>
    cases e with
    | vex | evex | xop => exact setMember_eq fun m => ⟨rawWord_le_max m, rfl, rfl, rfl⟩
    | legacy | threeDNow => cases hfor
  | tupleType =>
    cases e with
    | evex => exact setMember_eq fun m => ⟨rawWord_le_max m, rfl, rfl, rfl⟩
    | legacy | vex | xop | threeDNow => cases hfor
  | evexLength =>
    cases e with
    | evex => exact hex_bind fun n hn => write2_eq ⟨hn, rfl, rfl, rfl⟩
    | legacy | vex | xop | threeDNow => cases hfor

/-! ## Operands -/

/-- The record under construction while the operands are written. -/
def withOperands (b : Builder) (indices : List Nat) : Builder :=
  { b with word3 := Attributes.assemble (Layout.word3.zip (indices.map UInt32.ofNat)) }

variable {b : Builder} {indices : List Nat} {name : List Char} {names : List (List Char)}

theorem zip_append_singleton {α β : Type} {y : β} : ∀ {xs : List α} {ys : List β} {x : α},
    xs[ys.length]? = some x → xs.zip (ys ++ [y]) = xs.zip ys ++ [(x, y)]
  | [], _, _, h => by cases h
  | x :: xs, [], _, h => by
    cases h
    simp
  | x :: xs, _ :: ys, _, h => by
    rw [List.cons_append, List.zip_cons_cons, List.zip_cons_cons, List.cons_append,
      zip_append_singleton (by simpa using h)]

theorem operandIndex_lt {i : Nat} (h : Assignment.operandIndex e name = .ok i) : i < 2 ^ 4 := by
  obtain ⟨hindex, -⟩ := Assignment.operandIndex_eq_ok_iff.mp h
  obtain ⟨hlt, -⟩ := List.findIdx?_eq_some_iff_getElem.mp hindex
  exact Nat.lt_of_lt_of_le hlt (Assignment.length_operandCode_le e)

/-- Writing an operand into the next slot extends the list of the operands. -/
theorem write_operand (h : indices.length < Layout.slotCount) {i : Nat} (hi : i < 2 ^ 4) :
    (Layout.operand ⟨indices.length, h⟩).write? (b.withOperands indices).word3 (UInt32.ofNat i)
      = some (b.withOperands (indices ++ [i])).word3 := by
  have hslot : Layout.word3[(indices.map UInt32.ofNat).length]?
      = some (Layout.operand ⟨indices.length, h⟩) := by
    rw [List.length_map]
    exact Layout.getElem?_word3 ⟨indices.length, h⟩
  have hfits : UInt32.ofNat i ≤ (Layout.operand ⟨indices.length, h⟩).max := by
    rw [Field.le_max_iff, Bits.toNat_ofNat_of_lt (by omega)]
    exact hi
  rw [Field.write?_eq hfits]
  simp only [withOperands]
  rw [List.map_append, List.map_singleton, zip_append_singleton hslot, Attributes.assemble,
    Attributes.assemble, List.foldl_append]
  rfl

/-- **The next operand is written into the next slot.** -/
theorem setOperand_eq (h : indices.length < Layout.slotCount) :
    (b.withOperands indices).setOperand indices.length name
      = defined ((Assignment.operandIndex b.encoding name).map
        fun index => b.withOperands (indices ++ [index])) := by
  unfold setOperand
  cases hindex : Assignment.operandIndex b.encoding name with
  | error err =>
    change (defined (Assignment.operandIndex b.encoding name) >>= _) = _
    rw [hindex]
    rfl
  | ok i =>
    change (defined (Assignment.operandIndex b.encoding name) >>= _) = _
    rw [hindex, Layout.getElem?_word3 ⟨indices.length, h⟩]
    change ((liftM ((Layout.operand ⟨indices.length, h⟩).write? (b.withOperands indices).word3
      (UInt32.ofNat i)) : Checked RecordError UInt32) >>= _) = _
    rw [write_operand h (operandIndex_lt hindex)]
    rfl

/-- By induction on the names. -/
theorem setOperands_loop_eq (indices : List Nat)
    (h : indices.length + names.length ≤ Layout.slotCount) :
    (names.zipIdx indices.length).foldlM (fun b entry => b.setOperand entry.2 entry.1)
        (b.withOperands indices)
      = defined ((names.mapM (Assignment.operandIndex b.encoding)).map
        fun rest => b.withOperands (indices ++ rest)) := by
  induction names generalizing indices with
  | nil =>
    rw [List.mapM_nil]
    change _ = defined (.ok (b.withOperands (indices ++ [])))
    rw [List.append_nil]
    rfl
  | cons name names ih =>
    rw [List.length_cons] at h
    rw [List.zipIdx_cons, List.foldlM_cons, setOperand_eq (by omega), List.mapM_cons]
    cases Assignment.operandIndex b.encoding name with
    | error err => rfl
    | ok i =>
      have hlength : (indices ++ [i]).length = indices.length + 1 := by simp
      have hrest := ih (indices ++ [i]) (by omega)
      rw [hlength] at hrest
      refine hrest.trans ?_
      rw [ok_bind]
      cases names.mapM (Assignment.operandIndex b.encoding) with
      | error err => rfl
      | ok rest =>
        change defined (.ok (b.withOperands (indices ++ [i] ++ rest))) = _
        rw [List.append_assoc]
        rfl

/-- All operands are written, into slots that have not been used. -/
theorem setOperands_loop_of (h : a.operands = []) (hlength : names.length ≤ Layout.slotCount) :
    names.zipIdx.foldlM (fun b entry => b.setOperand entry.2 entry.1) (of e a keys)
      = defined ((names.mapM (Assignment.operandIndex e)).map (of e a keys).withOperands) := by
  have hempty : of e a keys = (of e a keys).withOperands [] := by
    rw [← h]
    rfl
  have hloop : List.foldlM _ _ (names.zipIdx 0) = _ := setOperands_loop_eq (b := of e a keys) []
    (by rwa [List.length_nil, Nat.zero_add])
  rw [← hempty] at hloop
  exact hloop

theorem of_assign_operands (he : e ≠ .threeDNow) :
    of e (a.assign (.operands indices)) keys
      = { (of e a keys).withOperands indices with opCount := UInt8.ofNat indices.length } := by
  cases e with
  | legacy | vex | evex | xop => rfl
  | threeDNow => exact absurd rfl he

theorem encoding_of : (of e a keys).encoding = e := rfl

theorem readOperands_eq : Assignment.readOperands e value
    = if e = .threeDNow then .error .fixedOperands
      else if e.opSlots < (Assignment.operandNames value).length then
        .error (.tooManyOperands e (Assignment.operandNames value).length)
      else (Assignment.operandNames value).mapM (Assignment.operandIndex e) := rfl

/-- **A list of operands is written as it is read.** -/
theorem setOperands_eq (h : a.operands = []) :
    (of e a keys).setOperands value
      = extend e a keys ((Assignment.readOperands e value).map .operands) := by
  rw [readOperands_eq, setOperands, encoding_of]
  by_cases he : e = .threeDNow
  · rw [if_pos he, if_pos he]
    rfl
  · rw [if_neg he, if_neg he]
    by_cases hlength : e.opSlots < (Assignment.operandNames value).length
    · rw [if_pos hlength, if_pos hlength]
      rfl
    · have hslots : e.opSlots ≤ Layout.slotCount := by cases e <;> decide
      rw [if_neg hlength, if_neg hlength, setOperands_loop_of h (by omega)]
      cases hread : (Assignment.operandNames value).mapM (Assignment.operandIndex e) with
      | error err => rfl
      | ok l =>
        have hcount := (mapM_eq_ok_iff.mp hread).length_eq
        change defined (.ok _) = defined (.ok (of e (a.assign (.operands l)) keys))
        rw [of_assign_operands he, ← hcount]

/-! ## Words -/

/-- **A word with a value is taken as it is read.** -/
theorem set_eq (hops : key = text Key.operands → a.operands = []) :
    (of e a keys).set key value = extend e a keys (Assignment.ofKeyValue e key value) := by
  unfold set Assignment.ofKeyValue
  cases hk : (Enumeration.ofName? key : Option Key) with
  | none => rfl
  | some k =>
    cases hfor : k.isFor e with
    | false =>
      simp only [hfor, Bool.not_false, if_true]
      exact setKey_eq_of_not_isFor hfor
    | true =>
      by_cases hk' : k = .operands
      · subst hk'
        have hkey : (of e a keys).setKey .operands key value = (of e a keys).setOperands value := by
          cases e <;> rfl
        exact hkey.trans (setOperands_eq (hops (Enumeration.ofName?_eq_some_iff.mp hk)))
      · simp only [hfor, Bool.not_true, Bool.false_eq_true, if_false, if_neg hk']
        refine (setKey_eq hfor hk').trans (congrArg _ ?_)
        cases Assignment.value? e k value <;> rfl

theorem turnOn_eq {s : Switch} (h : s.isFor e = true) :
    (of e a keys).turnOn s key = extend e a keys (.ok (.switch s)) := by
  cases s with
  | noPrefix | fwait =>
    cases e with
    | legacy => exact write2_eq ⟨by decide, rfl, rfl, rfl⟩
    | vex | evex | xop | threeDNow => cases h
  | lig | broadcast | roundingControl | sae | opmask | zeroing =>
    cases e with
    | evex => exact write2_eq ⟨by decide, rfl, rfl, rfl⟩
    | legacy | vex | xop | threeDNow => cases h

theorem turnOn_eq_of_not_isFor {s : Switch} (h : s.isFor e = false) :
    (of e a keys).turnOn s key = throw (.unexpectedSwitch e key) := by
  cases s <;> cases e <;> first | rfl | cases h

/-- **A word that stands alone is taken as it is read.** -/
theorem setSwitch_eq :
    (of e a keys).setSwitch key = extend e a keys (Assignment.ofSwitch e key) := by
  unfold setSwitch Assignment.ofSwitch
  cases (Enumeration.ofName? key : Option Switch) with
  | none => rfl
  | some s =>
    cases hfor : s.isFor e with
    | false =>
      simp only [hfor, Bool.false_eq_true, if_false]
      exact turnOn_eq_of_not_isFor hfor
    | true =>
      simp only [hfor, if_true]
      exact turnOn_eq hfor

variable {word : List Char} {ws : List (List Char)}

/-- **A word with a new key is taken as it is read.** -/
theorem token_eq (hops : text Key.operands ∉ keys → a.operands = []) :
    (of e a keys).token word
      = if keys.contains (Assignment.keyOf word) then throw (.duplicateKey (Assignment.keyOf word))
        else extend e a (Assignment.keyOf word :: keys) (Assignment.ofWord e word) := by
  unfold token
  change (if keys.contains (Assignment.keyOf word) then _ else _) = _
  by_cases hseen : keys.contains (Assignment.keyOf word) = true
  · rw [if_pos hseen, if_pos hseen]
  · rw [if_neg hseen, if_neg hseen, Assignment.ofWord]
    cases hafter : Text.after? '=' word with
    | none =>
      have hword : Assignment.keyOf word = word :=
        Text.before_of_not_mem (Text.after?_eq_none_iff.mp hafter)
      simp only [hword]
      exact setSwitch_eq
    | some v =>
      refine set_eq fun hkey => hops fun hmem => hseen ?_
      rw [hkey]
      exact List.contains_iff_mem.mpr hmem

/-- **The words are taken as they are read.** By induction on the words. -/
theorem tokens_eq (hops : text Key.operands ∉ keys → a.operands = []) :
    ws.foldlM token (of e a keys) = defined ((Assignment.ofWords e keys ws).map fun as =>
      of e (as.foldl Attributes.assign a) ((ws.map Assignment.keyOf).reverse ++ keys)) := by
  induction ws generalizing a keys with
  | nil => rfl
  | cons word ws ih =>
    rw [List.foldlM_cons, token_eq hops, Assignment.ofWords]
    by_cases hseen : keys.contains (Assignment.keyOf word) = true
    · rw [if_pos hseen, if_pos hseen]
      rfl
    · rw [if_neg hseen, if_neg hseen]
      cases hx : Assignment.ofWord e word with
      | error err => rfl
      | ok x =>
        have hkey := (Assignment.ofWord_eq_ok_iff.mp hx).keyOf_eq
        have hops' : text Key.operands ∉ Assignment.keyOf word :: keys →
            (a.assign x).operands = [] := by
          intro hnew
          have hne : x.keyText ≠ text Key.operands := fun h =>
            List.ne_of_not_mem_cons hnew (h.symm.trans hkey.symm)
          have hframe := Assignment.Setting.operands.frame x hne a
          exact hframe.trans (hops (List.not_mem_of_not_mem_cons hnew))
        have hstep : extend e a (Assignment.keyOf word :: keys) (.ok x)
            = pure (of e (a.assign x) (Assignment.keyOf word :: keys)) := rfl
        have hkeys : ((word :: ws).map Assignment.keyOf).reverse ++ keys
            = (ws.map Assignment.keyOf).reverse ++ Assignment.keyOf word :: keys := by simp
        rw [hstep, pure_bind, ih hops', ok_bind, hkeys]
        cases Assignment.ofWords e (Assignment.keyOf word :: keys) ws with
        | error err => rw [error_bind, Except.map, Except.map]
        | ok as => simp only [ok_bind, pure, Except.pure, Except.map, List.foldl_cons]

/-! ## Lines -/

/-- The number of operands fits into a byte. -/
theorem toNat_opCount (h : a.Fits e) : (UInt8.ofNat (a.opCount e)).toNat = a.opCount e := by
  have hle : a.opCount e ≤ e.opSlots := by
    unfold Attributes.opCount
    cases e with
    | threeDNow => exact Nat.le_refl 2
    | legacy | vex | evex | xop => exact h.length_le
  have hslots : e.opSlots < 256 := by cases e <;> decide
  exact UInt8.toNat_ofNat_of_lt (Nat.lt_of_le_of_lt hle hslots)

theorem finish_eq (name mnemonic : List Char) (h : a.opcode.isSome = true → a.Fits e) :
    (of e a keys).finish name mnemonic
      = defined (if a.opcode.isNone then .error .missingOpcode
        else .ok (Record.ofAttributes name mnemonic e a)) := by
  unfold finish
  change (if a.opcode.isSome then _ else _) = _
  cases hopcode : a.opcode with
  | none => rfl
  | some n =>
    have hcount := toNat_opCount (h (hopcode ▸ rfl))
    have hrecord : (of e a keys).opCount.toNat = (Record.ofAttributes name mnemonic e a).opCount :=
      hcount
    simp only [Option.isSome_some, if_true, Option.isNone_some, Bool.false_eq_true, if_false,
      hrecord]
    rfl

theorem build_eq (name mnemonic : List Char) (e : Encoding) (ws : List (List Char)) :
    build name mnemonic e ws = defined (Record.ofWords name mnemonic e ws) := by
  unfold build Record.ofWords
  rw [new_eq, lift_some, pure_bind, tokens_eq fun _ => rfl]
  cases has : Assignment.ofWords e [] ws with
  | error err => rfl
  | ok as =>
    have hfits := (Assignment.ofWords_eq_ok_iff.mp has).fits
    refine (finish_eq name mnemonic hfits).trans ?_
    rw [ok_bind]
    cases hopcode : (as.foldl Attributes.assign {}).opcode with
    | none =>
      simp only [hopcode, Option.isNone_none, if_true]
      rfl
    | some n =>
      simp only [hopcode, Option.isNone_some, Bool.false_eq_true, if_false]
      rfl

/-- **Every line is read without an undefined step**, and with the result of `Record.read`. -/
theorem read_eq (line : List Char) : read line = defined (Record.read line) := by
  unfold read Record.read
  cases Text.words line with
  | nil => rfl
  | cons name rest =>
    cases hname : Record.isName name with
    | false =>
      simp only [hname, Bool.not_false, if_true]
      rfl
    | true =>
      simp only [hname, Bool.not_true, Bool.false_eq_true, if_false]
      cases rest with
      | nil => rfl
      | cons mnemonic rest =>
        cases rest with
        | nil => rfl
        | cons encoding ws =>
          cases he : (Enumeration.ofName? encoding : Option Encoding) with
          | none => simp only [he]; rfl
          | some e => simp only [he]; exact build_eq name mnemonic e ws

/-- **Building a record in place never gets stuck and gives what `Record.read` gives, and a record
is built exactly from the lines of the grammar.** -/
theorem reads_grammar (line : List Char) :
    (read line).run = some (Record.read line) ∧
      ((∃ r, Record.read line = .ok r) ↔ Grammar.IsLine line) :=
  ⟨read_eq line, Record.exists_read_iff⟩

end Builder

end OpcodeForms
