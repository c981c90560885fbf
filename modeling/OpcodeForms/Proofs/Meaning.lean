import OpcodeForms.Proofs.Notation
import OpcodeForms.Proofs.Properties
import OpcodeForms.Proofs.Records

/-!
# Table lines mean what they say

The record of an accepted line decodes to what the line denotes, for every form and whatever the
order of the words.

The attributes of the line stand between the two: packing and decoding keep them, and each of them
is what the line tells.
-/

namespace OpcodeForms

open Enumeration (text)

/-! ## Tables of texts -/

section

variable {α β : Type} [DecidableEq α] [Enumeration α] {ws : List (List Char)} {key : String}
  {d x y : α} {g : α → β} {table : List (String × β)}

/-- A named attribute is told in the words of a table that has all its names. -/
theorem Tells.meaningIn (h : Tells ws key Enumeration.ofName? d x)
    (htable : ∀ a : α, meaningIn table (text a) = some (g a)) :
    Tells ws key (meaningIn table) (g d) (g x) := by
  apply h.map
  intro v a ha
  rw [Enumeration.ofName?_eq_some_iff.mp ha]
  exact htable a

/-- A named attribute that is not the default is named by the line. -/
theorem Tells.eq_iff_gives (h : Tells ws key Enumeration.ofName? d x) (hy : y ≠ d) :
    x = y ↔ Gives ws key (text y) := by
  constructor
  · rintro rfl
    by_cases hgiven : ∃ v, Gives ws key v
    · obtain ⟨v, hv⟩ := hgiven
      rwa [Enumeration.ofName?_eq_some_iff.mp (h.given v hv)] at hv
    · exact absurd (h.absent fun v hv => hgiven ⟨v, hv⟩) hy
  · intro hv
    exact (Enumeration.text_inj (Enumeration.ofName?_eq_some_iff.mp (h.given _ hv))).symm

end

theorem meaningIn_prefixes (np : Bool) (b : PrefixByte) :
    meaningIn (Notation.prefixes (PrefixByte.none.legacyPrefix np)) (text b)
      = some (b.legacyPrefix np) := by
  cases np <;> cases b <;> rfl

theorem meaningIn_maps_legacy (m : LegacyMap) :
    meaningIn Notation.maps (text m) = some m.opcodeMap := by
  cases m <;> rfl

theorem meaningIn_maps_vector (m : VectorMap) :
    meaningIn Notation.maps (text m) = some m.opcodeMap := by
  cases m <;> rfl

theorem meaningIn_maps_xop (m : XopMap) : meaningIn Notation.maps (text m) = some m.opcodeMap := by
  cases m <;> rfl

theorem meaningIn_sizes (s : Width) : meaningIn Notation.sizes (text s) = some s.bits := by
  cases s <;> rfl

theorem meaningIn_lengths_vex (l : VexLength) :
    meaningIn Notation.lengths (text l) = some l.shown := by
  cases l <;> rfl

theorem meaningIn_lengths_xop (l : XopLength) :
    meaningIn Notation.lengths (text l) = some l.shown := by
  cases l <;> rfl

theorem meaningIn_wBits (b : WBit) :
    meaningIn Notation.wBits (text b) = some (if .w ∈ b.properties then 1 else 0,
      decide (.wig ∈ b.properties), decide (.wig32 ∈ b.properties)) := by
  cases b <;> rfl

theorem meaningIn_modes (m : Encodable) :
    meaningIn Notation.modes (text m) = some (decide (.mode16 ∈ m.modes),
      decide (.mode32 ∈ m.modes), decide (.mode64 ∈ m.modes)) := by
  cases m <;> rfl

/-- The names of the allowed prefixes are the prefixes with underscores between them. -/
theorem mem_permissions_iff (a : AllowedPrefixes) : ∀ entry ∈ Notation.permissions,
    entry.2 ∈ a.permissions ↔ entry.1.toList ∈ (text a).splitOn '_' := by
  cases a <;> decide

/-! ## Operands -/

namespace Notation

/-- The listed operand codes have the names of their kinds. -/
theorem meaningIn_operands {e : Encoding} : ∀ c ∈ (OperandCode.all e).tail,
    meaningIn operands c.name.toList = some c.kind := by
  cases e <;> decide

/-- An operand index stands for what the operand's name means. -/
theorem meaningIn_operands_of_operandIndex {e : Encoding} {name : List Char} {i : Nat}
    (h : Assignment.operandIndex e name = .ok i) :
    ∃ k, meaningIn operands name = some k ∧ OperandCode.kind? e i = some k := by
  obtain ⟨hindex, hne⟩ := Assignment.operandIndex_eq_ok_iff.mp h
  obtain ⟨hlt, hname, -⟩ := List.findIdx?_eq_some_iff_getElem.mp hindex
  have hmem : (OperandCode.all e)[i] ∈ (OperandCode.all e).tail := by
    obtain ⟨j, rfl⟩ := Nat.exists_eq_succ_of_ne_zero hne
    rw [List.mem_iff_getElem]
    exact ⟨j, by rw [List.length_tail]; omega, List.getElem_tail _⟩
  refine ⟨(OperandCode.all e)[i].kind, ?_, ?_⟩
  · rw [← beq_iff_eq.mp hname]
    exact meaningIn_operands _ hmem
  · rw [OperandCode.kind?, List.getElem?_eq_getElem hlt]
    rfl

/-- The kinds of a list of operand indices. -/
def kindsOf (e : Encoding) (l : List Nat) : List OperandKind :=
  l.map fun i => (OperandCode.kind? e i).getD .none

theorem mapM_meaningIn_operands {e : Encoding} {names : List (List Char)} {l : List Nat}
    (h : List.Forall₂ (fun name i => Assignment.operandIndex e name = .ok i) names l) :
    names.mapM (meaningIn operands) = some (kindsOf e l) := by
  induction h with
  | nil => rfl
  | @cons name i names l hname _ ih =>
    obtain ⟨k, hk, hkind⟩ := meaningIn_operands_of_operandIndex hname
    have hcons : kindsOf e (i :: l) = k :: kindsOf e l := by
      rw [kindsOf, List.map_cons, hkind]
      rfl
    rw [List.mapM_cons, hk, ih, hcons]
    rfl

end Notation

/-- The slots of the attributes are the kinds of the operands, with unused slots after them. -/
theorem Attributes.slots_eq_padded {a : Attributes} {e : Encoding}
    (h : a.operands.length ≤ Layout.slotCount) :
    a.slots e = Notation.padded (Notation.kindsOf e a.operands) := by
  apply List.ext_getElem
  · simp only [slots, Notation.padded, Notation.kindsOf, List.length_map, List.length_finRange,
      List.length_append, List.length_replicate]
    exact (Nat.add_sub_of_le h).symm
  · intro i hi _
    simp only [slots, Notation.padded, Notation.kindsOf, List.getElem_map, List.getElem_finRange,
      Fin.val_cast, List.getElem_append, List.length_map]
    by_cases hlt : i < a.operands.length
    · simp [hlt]
    · simp [hlt]

theorem Encoding.opSlots_le (e : Encoding) : e.opSlots ≤ Layout.slotCount := by
  cases e <;> decide

/-- The slots are what the list of operands denotes. -/
theorem Notation.slots_eq {e : Encoding} {v : List Char} {l : List Nat}
    (h : Assignment.readOperands e v = .ok l) :
    Notation.slots v = some (Attributes.slots { operands := l } e) := by
  obtain ⟨-, -, hnames⟩ := Assignment.readOperands_eq_ok_iff.mp h
  have hle : l.length ≤ Layout.slotCount :=
    Nat.le_trans (Assignment.fits_of_readOperands h).1 e.opSlots_le
  rw [Attributes.slots_eq_padded hle]
  unfold Notation.slots
  unfold Assignment.operandNames at hnames
  rw [mapM_meaningIn_operands hnames]
  rfl

/-! ## Attributes -/

namespace Attributes

variable {a : Attributes} {e : Encoding} {ws : List (List Char)} {form : Form}

/-- What a key tells that the encoding does not have is its default. -/
theorem ToldBy.tells_default {α : Type} {read : List Char → Option α} {d : α} {k : Key}
    (h : a.ToldBy e ws) (hk : k.isFor e = false) : Tells ws (Enumeration.name k) read d d where
  given v hv := absurd hv (h.not_gives k hk v)
  absent _ := rfl

/-- A flag of a record that only some encodings have tells that a switch is one of the words. -/
theorem ToldBy.flag_iff {b : Bool} (h : a.ToldBy e ws) (T : Assignment.Toggle)
    (hb : b = (T.name.isFor e && T.get a)) : b = true ↔ text T.name ∈ ws := by
  rw [hb, Bool.and_eq_true, h.toggle T]
  refine and_iff_right_of_imp fun hmem => ?_
  cases hfor : T.name.isFor e with
  | true => rfl
  | false => exact absurd hmem (h.not_mem _ hfor)

/-- The attributes that the properties of the decoded record come from. -/
def traits (a : Attributes) (form : Form) : Encoding → Traits
  | .legacy => (a.legacyFields form).traits form
  | .vex => (a.vexFields form).traits form
  | .evex => (a.evexFields form).traits form
  | .xop => (a.xopFields form).traits form
  | .threeDNow => { isInstruction := form.isInstruction, encodable := a.modes form }

theorem hasTraits_info (a : Attributes) (form : Form) (e : Encoding) :
    (a.info form e).HasTraits (a.traits form e) := by
  cases e with
  | legacy => exact LegacyFields.hasTraits form _ _
  | vex => exact VexFields.hasTraits form _ _
  | evex => exact EvexFields.hasTraits form _ _
  | xop => exact XopFields.hasTraits form _ _
  | threeDNow => exact Info.hasTraits_ofThreeDNow form _ _

/-! ## Answers -/

namespace ToldBy

theorem exists_gives_opcode (h : a.ToldBy e ws) (hfits : a.Fits e) : ∃ v, Gives ws "op" v := by
  obtain ⟨n, hn, -⟩ := hfits.opcode
  by_contra hno
  have habsent : a.opcode = none := (h.setting .opcode rfl).absent fun v hv => hno ⟨v, hv⟩
  rw [hn] at habsent
  cases habsent

theorem opcode (h : a.ToldBy e ws) (hfits : a.Fits e) {v : List Char} (hv : Gives ws "op" v) :
    Text.hexValue? v = some (a.info form e).opcode := by
  obtain ⟨n, hn, -⟩ := hfits.opcode
  have hopcode : (a.info form e).opcode = n := by
    have hgetD : a.opcode.getD 0 = n := by rw [hn, Option.getD_some]
    cases e <;> exact hgetD
  obtain ⟨m, hm, hmn⟩ := Option.map_eq_some_iff.mp ((h.setting .opcode rfl).given v hv)
  cases Option.some.inj (hmn.trans hn)
  rw [hopcode]
  exact ((Text.hexAtMost?_eq_some_iff (by decide)).mp hm).1

theorem mandatoryPrefix (h : a.ToldBy e ws) :
    Tells ws "mp" (meaningIn (Notation.prefixes (Notation.absentPrefix ws e)))
      (Notation.absentPrefix ws e) (a.info form e).mandatoryPrefix := by
  cases e with
  | legacy =>
    -- the switch `np` decides what the absence of a byte means, in the table and as the default
    have hnp : a.noPrefix = true ↔ "np".toList ∈ ws := h.toggle .noPrefix
    have habsent : Notation.absentPrefix ws .legacy = PrefixByte.none.legacyPrefix a.noPrefix := by
      unfold Notation.absentPrefix PrefixByte.legacyPrefix
      simp only [hnp]
    rw [habsent]
    exact (h.setting .prefixByte rfl).meaningIn (meaningIn_prefixes a.noPrefix)
  | vex => exact (h.setting .prefixByte rfl).meaningIn (meaningIn_prefixes true)
  | evex => exact (h.setting .prefixByte rfl).meaningIn (meaningIn_prefixes true)
  | xop => exact (h.setting .prefixByte rfl).meaningIn (meaningIn_prefixes true)
  | threeDNow => exact h.tells_default (k := .prefixByte) rfl

theorem table (h : a.ToldBy e ws) :
    Tells ws "table" (meaningIn Notation.maps) (Notation.defaultMap e) (a.info form e).table := by
  cases e with
  | legacy => exact (h.setting .legacyMap rfl).meaningIn meaningIn_maps_legacy
  | vex => exact (h.setting .vectorMap rfl).meaningIn meaningIn_maps_vector
  | evex => exact (h.setting .vectorMap rfl).meaningIn meaningIn_maps_vector
  | xop => exact (h.setting .xopMap rfl).meaningIn meaningIn_maps_xop
  | threeDNow => exact h.tells_default (k := .table) rfl

theorem group (h : a.ToldBy e ws) :
    Tells ws "group" (fun v => (Text.hexValue? v).map some) none (a.info form e).group := by
  have htells : Tells ws "group" (fun v => (Text.hexValue? v).map some) none a.group := by
    refine (h.setting .group rfl).map (f := id) fun v o ho => ?_
    obtain ⟨n, hn, rfl⟩ := Option.map_eq_some_iff.mp ho
    rw [((Text.hexAtMost?_eq_some_iff (by decide)).mp hn).1]
    rfl
  cases e with
  | legacy | vex | evex | xop => exact htells
  | threeDNow => exact h.tells_default (k := .group) rfl

theorem operandSize (h : a.ToldBy e ws) :
    Tells ws "os" (meaningIn Notation.sizes) 0 (a.info form e).operandSize.bits := by
  cases e with
  | legacy => exact (h.setting .operandSize rfl).meaningIn meaningIn_sizes
  | vex | evex | xop | threeDNow => exact h.tells_default (k := .operandSize) rfl

theorem addressSize (h : a.ToldBy e ws) :
    Tells ws "as" (meaningIn Notation.sizes) 0 (a.info form e).addressSize.bits := by
  cases e with
  | legacy => exact (h.setting .addressSize rfl).meaningIn meaningIn_sizes
  | vex | evex | xop | threeDNow => exact h.tells_default (k := .addressSize) rfl

theorem tupleType (h : a.ToldBy e ws) :
    Tells ws "tuple" Enumeration.ofName? .none (a.info form e).tupleType := by
  cases e with
  | evex => exact h.setting .tupleType rfl
  | legacy | vex | xop | threeDNow => exact h.tells_default (k := .tupleType) rfl

theorem groupIndex (h : a.ToldBy e ws) :
    Tells ws "group" (fun v => (Text.hexValue? v).map Int.ofNat) (-1)
      (a.info form e).groupIndex := by
  let index (g : Option Nat) : Int := (g.map Int.ofNat).getD (-1)
  have hindex : (a.info form e).groupIndex = index (a.info form e).group := by
    unfold Info.groupIndex
    cases (a.info form e).group <;> rfl
  rw [hindex]
  refine h.group.map (f := index) fun v g hg => ?_
  obtain ⟨n, hn, rfl⟩ := Option.map_eq_some_iff.mp hg
  rw [hn]
  rfl

theorem isGroup (h : a.ToldBy e ws) :
    (a.info form e).isGroup = true ↔ ∃ v, Gives ws "group" v := by
  have htells : Tells ws "group" _ none (a.info form e).group := h.group
  unfold Info.isGroup
  constructor
  · intro hgroup
    by_contra hno
    rw [htells.absent fun v hv => hno ⟨v, hv⟩] at hgroup
    cases hgroup
  · rintro ⟨v, hv⟩
    obtain ⟨n, -, hn⟩ := Option.map_eq_some_iff.mp (htells.given v hv)
    rw [← hn]
    rfl

theorem length (h : a.ToldBy e ws) : DenotesLength ws (a.info form e) e := by
  cases e with
  | vex => exact (h.setting .vexLength rfl).meaningIn meaningIn_lengths_vex
  | xop => exact (h.setting .xopLength rfl).meaningIn meaningIn_lengths_xop
  | evex =>
    refine ⟨rfl, (h.setting .evexLength rfl).map (f := id) fun v n hn => ?_⟩
    exact ((Text.hexAtMost?_eq_some_iff (by decide)).mp hn).1
  | legacy | threeDNow => exact ⟨rfl, rfl⟩

/-! ### Properties -/

theorem w (h : a.ToldBy e ws) :
    Tells ws "w" (meaningIn Notation.wBits) (0, false, false)
      ((a.info form e).w, (a.info form e).has .wig, (a.info form e).has .wig32) := by
  have htells : Tells ws "w" Enumeration.ofName? .w0 (a.traits form e).w := by
    cases e with
    | vex | evex | xop => exact h.setting .w rfl
    | legacy | threeDNow => exact h.tells_default (k := .w) rfl
  have htraits := hasTraits_info a form e
  have hw : (a.info form e).has .w = decide (.w ∈ (a.traits form e).w.properties) :=
    htraits.has_eq Iff.rfl
  have hwig : (a.info form e).has .wig = decide (.wig ∈ (a.traits form e).w.properties) :=
    htraits.has_eq Iff.rfl
  have hwig32 : (a.info form e).has .wig32 = decide (.wig32 ∈ (a.traits form e).w.properties) :=
    htraits.has_eq Iff.rfl
  unfold Info.w
  rw [hw, hwig, hwig32]
  simp only [decide_eq_true_eq]
  exact htells.meaningIn meaningIn_wBits

theorem modes (h : a.ToldBy e ws) :
    if form.isInstruction then
      Tells ws "mode" (meaningIn Notation.modes) (true, true, true)
        ((a.info form e).has .mode16, (a.info form e).has .mode32, (a.info form e).has .mode64)
    else
      (a.info form e).has .mode16 = true ∧ (a.info form e).has .mode32 = true ∧
        (a.info form e).has .mode64 = true := by
  have htraits := hasTraits_info a form e
  have hencodable : (a.traits form e).encodable = a.modes form := by
    cases e <;> rfl
  have h16 : (a.info form e).has .mode16 = decide (.mode16 ∈ (a.modes form).modes) :=
    htraits.has_eq (hencodable ▸ Iff.rfl)
  have h32 : (a.info form e).has .mode32 = decide (.mode32 ∈ (a.modes form).modes) :=
    htraits.has_eq (hencodable ▸ Iff.rfl)
  have h64 : (a.info form e).has .mode64 = decide (.mode64 ∈ (a.modes form).modes) :=
    htraits.has_eq (hencodable ▸ Iff.rfl)
  rw [h16, h32, h64]
  unfold Attributes.modes
  split
  · exact (h.setting .encodable rfl).meaningIn meaningIn_modes
  · exact ⟨rfl, rfl, rfl⟩

theorem permissions (h : a.ToldBy e ws) : ∀ entry ∈ Notation.permissions,
    (a.info form e).has entry.2 = true ↔
      ∃ v, Gives ws "allow" v ∧ entry.1.toList ∈ v.splitOn '_' := by
  have htells : Tells ws "allow" Enumeration.ofName? .none (a.traits form e).allowedPrefixes := by
    cases e with
    | legacy => exact h.setting .allowedPrefixes rfl
    | vex | evex | xop | threeDNow => exact h.tells_default (k := .allowedPrefixes) rfl
  intro entry hentry
  have hgives : (a.traits form e).Gives entry.2 ↔
      entry.2 ∈ (a.traits form e).allowedPrefixes.permissions := by
    simp only [Notation.permissions, List.mem_cons, List.not_mem_nil, or_false] at hentry
    rcases hentry with rfl | rfl | rfl | rfl | rfl | rfl | rfl | rfl <;> exact Iff.rfl
  rw [hasTraits_info a form e entry.2, hgives]
  constructor
  · intro hmem
    -- the default allows no prefix, so the line names the prefixes
    by_cases hgiven : ∃ v, Gives ws "allow" v
    · obtain ⟨v, hv⟩ := hgiven
      refine ⟨v, hv, ?_⟩
      rw [Enumeration.ofName?_eq_some_iff.mp (htells.given v hv)]
      exact (mem_permissions_iff _ entry hentry).mp hmem
    · rw [htells.absent fun v hv => hgiven ⟨v, hv⟩] at hmem
      cases hmem
  · rintro ⟨v, hv, hmem⟩
    rw [Enumeration.ofName?_eq_some_iff.mp (htells.given v hv)] at hmem
    exact (mem_permissions_iff _ entry hentry).mpr hmem

theorem lig (h : a.ToldBy e ws) : (a.info form e).has .lig = true ↔ SaysLig ws e := by
  refine (hasTraits_info a form e .lig).trans ?_
  cases e with
  | vex => exact decide_eq_true_iff.trans ((h.setting .vexLength rfl).eq_iff_gives (by decide))
  | evex => exact h.toggle .lig
  | legacy | xop | threeDNow => exact iff_of_false Bool.noConfusion not_false

/-- The properties that a single switch gives. -/
theorem has_iff {p : Property} (h : a.ToldBy e ws) (T : Assignment.Toggle) {get : Traits → Bool}
    (hp : ∀ t : Traits, t.Gives p ↔ get t = true)
    (hget : get (a.traits form e) = (T.name.isFor e && T.get a)) :
    (a.info form e).has p = true ↔ text T.name ∈ ws := by
  rw [hasTraits_info a form e p, hp]
  exact h.flag_iff T hget

/-! ### Slots -/

theorem slots (h : a.ToldBy e ws) : DenotesSlots ws (a.info form e) e := by
  let slots (l : List Nat) : List OperandKind := Attributes.slots { operands := l } e
  have htells : Tells ws "ops" Notation.slots (slots []) (slots a.operands) := by
    refine (h.setting .operands rfl).map (f := slots) fun v l hl => ?_
    exact Notation.slots_eq (toOption_eq_some_iff.mp hl)
  cases e with
  | legacy | vex | evex | xop => exact htells
  | threeDNow => rfl

/-- **The decoded record of attributes that a line tells is what the line denotes.** -/
theorem denotes (h : a.ToldBy e ws) (hfits : a.Fits e) : Denotes form e ws (a.info form e) where
  form_eq := by cases e <;> rfl
  isInstruction := by
    have hno : (a.info form e).has .noInstruction = true ↔ form.isInstruction = false := by
      refine (hasTraits_info a form e .noInstruction).trans ?_
      cases e <;> exact Iff.rfl
    rw [Info.isInstruction, Bool.eq_iff_iff, Bool.not_eq_true', ← Bool.not_eq_true, hno,
      Bool.not_eq_false]
  encoding := by cases e <;> rfl
  hasOpcode := h.exists_gives_opcode hfits
  opcode _ hv := h.opcode hfits hv
  mandatoryPrefix := h.mandatoryPrefix
  table := h.table
  groupIndex := h.groupIndex
  isGroup := h.isGroup
  operandSize := h.operandSize
  addressSize := h.addressSize
  length := h.length
  w := h.w
  tupleType := h.tupleType
  lig := h.lig
  fwait := h.has_iff .fwait (fun _ => Iff.rfl) (by cases e <;> rfl)
  broadcast := h.has_iff .broadcast (fun _ => Iff.rfl) (by cases e <;> rfl)
  roundingControl := h.has_iff .roundingControl (fun _ => Iff.rfl) (by cases e <;> rfl)
  suppressAllExceptions := h.has_iff .sae (fun _ => Iff.rfl) (by cases e <;> rfl)
  opMaskRegister := h.has_iff .opmask (fun _ => Iff.rfl) (by cases e <;> rfl)
  zeroingMasking := h.has_iff .zeroing (fun _ => Iff.rfl) (by cases e <;> rfl)
  nonZeroOpMask := by
    refine (hasTraits_info a form e .nonZeroOpMask).trans ?_
    cases e with
    | evex => exact (and_iff_right rfl).symm
    | legacy | vex | xop | threeDNow =>
      exact iff_of_false Bool.noConfusion fun hevex => Encoding.noConfusion hevex.1
  modes := h.modes
  permissions := h.permissions
  slots := h.slots

end ToldBy

end Attributes

/-! ## Lines -/

namespace Record

variable {line line' : List Char} {ws ws' : List (List Char)} {r : Record}

/-- A line with the words of an accepted line after the encoding in another order is accepted
with the same record. -/
theorem read_eq_of_perm (h : read line = .ok r)
    (hwords : Text.words line = r.name :: r.mnemonic :: text r.encoding :: ws)
    (hwords' : Text.words line' = r.name :: r.mnemonic :: text r.encoding :: ws')
    (hperm : ws'.Perm ws) : read line' = .ok r := by
  obtain ⟨name, mnemonic, e, us, hus, hname, hread⟩ := read_eq_ok_iff.mp h
  obtain ⟨as, hline, hopcode, rfl⟩ := ofWords_eq_ok_iff.mp hread
  obtain rfl : us = ws := by
    rw [hus] at hwords
    exact (List.cons.inj (List.cons.inj (List.cons.inj hwords).2).2).2
  obtain ⟨bs, hbs, hline'⟩ := hline.perm hperm
  have hattributes := hline.foldl_assign_eq hbs.symm {}
  rw [hattributes] at hopcode ⊢
  exact read_eq_ok_iff.mpr ⟨name, mnemonic, e, ws', hwords', hname,
    ofWords_eq_ok_iff.mpr ⟨bs, hline', hopcode, rfl⟩⟩

/-- **The record of an accepted line decodes to what the line denotes**, for every form, and the
order of the words does not matter. -/
theorem denotes_of_read (h : read line = .ok r) (form : Form) :
    ∃ ws info, Text.words line = r.name :: r.mnemonic :: text r.encoding :: ws ∧
      Info.decode form r.packed = .ok info ∧ Denotes form r.encoding ws info ∧
      ∀ line' ws', ws'.Perm ws →
        Text.words line' = r.name :: r.mnemonic :: text r.encoding :: ws' →
          read line' = .ok r := by
  obtain ⟨name, mnemonic, e, ws, as, hwords, hline, hfits, rfl⟩ := exists_attributes h
  refine ⟨ws, _, hwords, Attributes.decode_pack hfits form, hline.toldBy.denotes hfits, ?_⟩
  intro line' ws' hperm hwords'
  exact read_eq_of_perm h hwords hwords' hperm

/-- A line with a prefix byte, operands and a switch. -/
def vaddLine : List Char :=
  "Vadd vadd evex op=58 mp=66 ops=VX,HX,WX z".toList

/-- The record of the line. -/
def vaddRecord : Record where
  name := "Vadd".toList
  mnemonic := "vadd".toList
  encoding := .evex
  opCount := 3
  packed := { word1 := 0x580002, word2 := 0x1000001, word3 := 0x741 }

/-- The form of the line in a table where it comes first. -/
def vaddForm : Form where
  code := 1
  name := "Vadd".toList
  mnemonic := "vadd".toList
  opCount := 3
  isInstruction := true

theorem read_vaddLine : read vaddLine = .ok vaddRecord := by
  rfl

/-- The line denotes a prefix byte, and it can give its words in another order. -/
theorem denotes_of_read_vadd :
    read vaddLine = .ok vaddRecord ∧
      ∃ info, Info.decode vaddForm vaddRecord.packed = .ok info ∧
        info.mandatoryPrefix = .p66 ∧
        read "Vadd vadd evex z ops=VX,HX,WX mp=66 op=58".toList = .ok vaddRecord := by
  obtain ⟨ws, info, hwords, hdecode, hdenotes, horder⟩ := denotes_of_read read_vaddLine vaddForm
  obtain rfl : ["op=58".toList, "mp=66".toList, "ops=VX,HX,WX".toList, "z".toList] = ws :=
    (List.cons.inj (List.cons.inj (List.cons.inj hwords).2).2).2
  refine ⟨read_vaddLine, info, hdecode, ?_, ?_⟩
  · have hgives := hdenotes.mandatoryPrefix.given "66".toList (by decide)
    exact (Option.some.inj hgives).symm
  · exact horder _ ["z".toList, "ops=VX,HX,WX".toList, "mp=66".toList, "op=58".toList]
      (by decide) rfl

end Record

end OpcodeForms
