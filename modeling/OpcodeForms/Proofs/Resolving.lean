import OpcodeForms.Proofs.Invariants
import OpcodeForms.Proofs.Meaning
import OpcodeForms.Proofs.TableReading

/-!
# Resolving a whole table

The number of operands of a form is stored apart from its packed record, and the reader of tables
knows nothing of the decoder. Still, every record of an accepted table decodes, and the number of
operands is that of the slots in use (`Catalogue.resolves_of_read`): a listed operand never has the
kind of an unused slot, and the slots after the last one are left as they are.

A code and a name stand for one form each (`Catalogue.get?_eq_some_iff`,
`Catalogue.find?_eq_some_iff`).
-/

namespace OpcodeForms

/-! ## Slots in use -/

/-- Only index 0 stands for an unused slot. -/
theorem OperandCode.kind?_ne_none {e : Encoding} {i : Nat} {k : OperandKind} (hi : 0 < i)
    (h : kind? e i = some k) : k ≠ .none := by
  have htail : ∀ c ∈ (all e).tail, c.kind ≠ .none := by
    cases e <;> decide
  obtain ⟨c, hc, rfl⟩ := Option.map_eq_some_iff.mp h
  apply htail c
  rw [← Nat.succ_pred_eq_of_pos hi, ← List.getElem?_tail] at hc
  exact List.mem_of_getElem? hc

namespace Attributes

variable {a : Attributes} {e : Encoding} {form : Form}

/-- The kinds of the operands that attributes come to. -/
def operandKinds (a : Attributes) : Encoding → List OperandKind
  | .threeDNow => OperandCode.fixedOperands
  | e => Notation.kindsOf e a.operands

theorem length_operandKinds (a : Attributes) (e : Encoding) :
    (a.operandKinds e).length = a.opCount e := by
  cases e with
  | threeDNow => rfl
  | legacy | vex | evex | xop => exact List.length_map _

/-- No operand has the kind of an unused slot. -/
theorem operandKinds_ne_none (h : a.Fits e) {k : OperandKind} (hk : k ∈ a.operandKinds e) :
    k ≠ .none := by
  have hlisted : ∀ e, (∀ i ∈ a.operands, 0 < i ∧ i < 2 ^ 4) → e ≠ .threeDNow →
      ∀ k ∈ Notation.kindsOf e a.operands, k ≠ .none := by
    intro e hoperands he k hk
    obtain ⟨i, hi, rfl⟩ := List.mem_map.mp hk
    obtain ⟨hpos, hlt⟩ := hoperands i hi
    obtain ⟨k, hkind⟩ := Info.exists_kind? he hlt
    rw [hkind]
    exact OperandCode.kind?_ne_none hpos hkind
  cases e with
  | threeDNow =>
    change k ∈ OperandCode.fixedOperands at hk
    revert k
    decide
  | legacy | vex | evex | xop => exact hlisted _ h.operand_lt (by decide) k hk

/-- The slots of the decoded record hold the operands, and nothing after them. -/
theorem slots_info (h : a.Fits e) (form : Form) :
    (a.info form e).slots = Notation.padded (a.operandKinds e) := by
  have hle : a.operands.length ≤ Layout.slotCount := Nat.le_trans h.length_le e.opSlots_le
  cases e with
  | threeDNow => rfl
  | legacy | vex | evex | xop => exact slots_eq_padded hle

end Attributes

/-! ## Decoded records of a table -/

/-- The decoded record of the record `r` at position `i` of a table whose data declarations begin
at position `declare`. -/
structure Info.Resolves (info : Info) (r : Record) (i declare : Nat) : Prop where
  code : info.form.code.toNat = i
  name : info.form.name = r.name
  mnemonic : info.form.mnemonic = r.mnemonic
  encoding : info.encoding = r.encoding
  isInstruction : info.isInstruction = true ↔ 0 < i ∧ i < declare
  opCount : info.form.opCount = r.opCount
  opCount_le : r.opCount ≤ r.encoding.opSlots
  slotCount : info.slots.length = 5
  /-- All operands are listed, and nothing else is. -/
  length_operands : info.operands.length = r.opCount
  used : ∀ k ∈ info.operands, k ≠ .none
  unused : ∀ k ∈ info.slots.drop r.opCount, k = .none

theorem Info.resolves_of_slots {info : Info} {r : Record} {i declare : Nat} {ks : List OperandKind}
    (hform : info.form = (Catalogue.entryAt declare r i).form) (hi : i < 2 ^ 16)
    (hinstr : info.isInstruction = info.form.isInstruction) (henc : info.encoding = r.encoding)
    (hslots : info.slots = Notation.padded ks) (hlength : ks.length = r.opCount)
    (hle : r.opCount ≤ r.encoding.opSlots) (hks : ∀ k ∈ ks, k ≠ .none) :
    info.Resolves r i declare := by
  have hoperands : info.operands = ks := by
    rw [operands, hslots, hform, Notation.padded]
    exact List.take_left' hlength
  have hdrop : info.slots.drop r.opCount = List.replicate (5 - ks.length) .none := by
    rw [hslots, Notation.padded]
    exact List.drop_left' hlength
  exact {
    code := by
      rw [hform]
      exact UInt16.toNat_ofNat_of_lt hi
    name := by rw [hform]; rfl
    mnemonic := by rw [hform]; rfl
    encoding := henc
    isInstruction := by
      rw [hinstr, hform]
      simp [Catalogue.entryAt]
    opCount := by rw [hform]; rfl
    opCount_le := hle
    slotCount := by
      have hfive : ks.length ≤ 5 := hlength ▸ Nat.le_trans hle r.encoding.opSlots_le
      rw [hslots, Notation.padded, List.length_append, List.length_replicate]
      omega
    length_operands := hoperands.symm ▸ hlength
    used := hoperands.symm ▸ hks
    unused := by
      intro k hk
      rw [hdrop] at hk
      exact List.eq_of_mem_replicate hk }

/-- **The record of a line decodes, and its operands are those of the line.** -/
theorem Record.exists_resolves {line : List Char} {r : Record} (h : read line = .ok r) {i : Nat}
    (hi : i < 2 ^ 16) (declare : Nat) :
    ∃ info, Info.decode (Catalogue.entryAt declare r i).form r.packed = .ok info ∧
      info.Resolves r i declare := by
  have hle := opCount_le h
  obtain ⟨name, mnemonic, e, ws, as, -, -, hfits, rfl⟩ := exists_attributes h
  generalize as.foldl Attributes.assign {} = a at *
  generalize hform : (Catalogue.entryAt declare (ofAttributes name mnemonic e a) i).form = form
  have hdecode := Attributes.decode_pack hfits form
  have hd := Info.decode_eq_ok_iff.mp hdecode
  obtain ⟨t, ht, hs⟩ := hd.exists_traits
  refine ⟨a.info form e, hdecode, ?_⟩
  exact Info.resolves_of_slots (hd.form_eq.trans hform.symm) hi
    (by rw [ht.isInstruction_eq, hs.isInstruction, hd.form_eq]) (by cases e <;> rfl)
    (Attributes.slots_info hfits form) (a.length_operandKinds e) hle
    fun k hk => Attributes.operandKinds_ne_none hfits hk

/-! ## Whole tables -/

namespace Table

variable {src : List Char} {rs : List Record}

/-- The order of the records of an accepted table. -/
theorem order_of_read (h : read src = .ok rs) :
    rs.head?.map Record.name = some "INVALID".toList ∧ declarePos rs < rs.length ∧
      (∀ r ∈ rs.drop (declarePos rs), "Declare".toList <+: r.name) ∧ rs.length ≤ 65535 :=
  checkOrder_eq_ok_iff.mp (isTable_iff.mp (read_eq_ok_iff.mp h)).2.2

theorem name_declarePos (hpos : declarePos rs < rs.length) :
    rs[declarePos rs]?.map Record.name = some "DeclareByte".toList := by
  have hname := List.findIdx_getElem (w := hpos)
  rw [List.getElem?_eq_getElem hpos, Option.map_some]
  exact congrArg some (beq_iff_eq.mp hname)

/-- The data declarations come after `INVALID`, which is no data declaration. -/
theorem declarePos_pos (hfirst : rs.head?.map Record.name = some "INVALID".toList)
    (hpos : declarePos rs < rs.length) : 0 < declarePos rs := by
  apply Nat.pos_of_ne_zero
  intro hzero
  have hname := name_declarePos hpos
  rw [hzero, ← List.head?_eq_getElem?, hfirst] at hname
  exact absurd hname (by decide)

end Table

namespace Catalogue

variable {src : List Char} {rs : List Record}

/-- The codes of a number of forms, counted in 16 bits. -/
def codes (n : Nat) : List UInt16 :=
  (List.range (UInt16.ofNat n).toNat).map UInt16.ofNat

/-- **Counted in 16 bits, every position is met once and in order.** -/
theorem map_toNat_codes {n : Nat} (hn : n ≤ 65535) : (codes n).map UInt16.toNat = List.range n := by
  have hcount : (UInt16.ofNat n).toNat = n := UInt16.toNat_ofNat_of_lt (Nat.lt_succ_of_le hn)
  rw [codes, hcount, List.map_map]
  refine (List.map_congr_left fun i hi => ?_).trans (List.map_id _)
  exact UInt16.toNat_ofNat_of_lt (Nat.lt_trans (List.mem_range.mp hi) (Nat.lt_succ_of_le hn))

/-- The forms of a catalogue have the codes of their positions. -/
theorem map_code_entries (hn : rs.length ≤ 65535) :
    (ofRecords rs).entries.map (·.form.code) = codes rs.length := by
  have hcount : (UInt16.ofNat rs.length).toNat = rs.length :=
    UInt16.toNat_ofNat_of_lt (Nat.lt_succ_of_le hn)
  apply List.ext_getElem
  · simp [ofRecords, codes, hcount]
  · intro i _ _
    simp [ofRecords, codes, entryAt]

/-! ## Looking forms up -/

/-- The codes are the numbers below the size of the catalogue. -/
theorem isSome_get?_iff {c : Catalogue} {code : Nat} :
    (c.get? code).isSome = true ↔ code < c.size := by
  rw [get?, isSome_getElem?]
  rfl

/-- The code of a form is its position. -/
theorem toNat_code_of_getElem? (h : Table.read src = .ok rs) {i : Nat} {entry : Entry}
    (hentry : (ofRecords rs).entries[i]? = some entry) : entry.form.code.toNat = i := by
  obtain ⟨-, -, -, hcount⟩ := Table.order_of_read h
  have hcodes : (ofRecords rs).entries.map (·.form.code.toNat) = List.range rs.length := by
    rw [← map_toNat_codes hcount, ← map_code_entries hcount, List.map_map]
    rfl
  have hcode := congrArg (·[i]?) hcodes
  simp only [List.getElem?_map, hentry, Option.map_some] at hcode
  obtain ⟨hi, hget⟩ := List.getElem?_eq_some_iff.mp hcode.symm
  rw [← hget, List.getElem_range]

/-- **A code stands for the form that has it.** -/
theorem get?_eq_some_iff (h : Table.read src = .ok rs) {code : Nat} {entry : Entry} :
    (ofRecords rs).get? code = some entry ↔
      entry ∈ (ofRecords rs).entries ∧ entry.form.code.toNat = code := by
  constructor
  · intro hget
    exact ⟨List.mem_of_getElem? hget, toNat_code_of_getElem? h hget⟩
  · rintro ⟨hmem, rfl⟩
    obtain ⟨i, hi⟩ := List.mem_iff_getElem?.mp hmem
    rw [toNat_code_of_getElem? h hi]
    exact hi

theorem nodup_names (h : Table.read src = .ok rs) :
    ((ofRecords rs).entries.map (·.form.name)).Nodup := by
  have hnames : (ofRecords rs).entries.map (·.form.name) = rs.map Record.name := by
    refine List.ext_getElem? fun i => ?_
    rw [ofRecords, List.getElem?_map, List.getElem?_mapIdx, List.getElem?_map, Option.map_map]
    rfl
  have hdiffer : rs.Pairwise Table.Differ := (Table.read_eq_ok_iff.mp h).names
  rw [hnames]
  refine List.pairwise_map.mpr (hdiffer.imp fun {r r'} hne heq => ?_)
  rw [Table.Differ, Text.eqIgnoringCase, heq, beq_self_eq_true] at hne
  cases hne

/-- **A name stands for the form that has it.** -/
theorem find?_eq_some_iff (h : Table.read src = .ok rs) {name : List Char} {entry : Entry} :
    (ofRecords rs).find? name = some entry ↔
      entry ∈ (ofRecords rs).entries ∧ entry.form.name = name := by
  have hname : ∀ {found}, (ofRecords rs).find? name = some found →
      found ∈ (ofRecords rs).entries ∧ found.form.name = name := by
    intro found hfound
    have heq := List.find?_some hfound
    exact ⟨List.mem_of_find?_eq_some hfound, beq_iff_eq.mp heq⟩
  refine ⟨hname, ?_⟩
  rintro ⟨hmem, heq⟩
  cases hfind : (ofRecords rs).find? name with
  | none => exact absurd (beq_iff_eq.mpr heq) (List.find?_eq_none.mp hfind entry hmem)
  | some found =>
    obtain ⟨hmem', heq'⟩ := hname hfind
    rw [List.inj_on_of_nodup_map (nodup_names h) hmem hmem' (heq.trans heq'.symm)]

/-! ## Resolving the forms -/

/-- **Every form of an accepted table resolves, and its operands are the slots in use.** There are
no more forms than codes, and no form uses more slots than a record has. -/
theorem resolves_of_read (h : Table.read src = .ok rs) :
    1 < rs.length ∧ rs.length ≤ 65535 ∧
      rs[Table.declarePos rs]?.map Record.name = some "DeclareByte".toList ∧
      (codes rs.length).map UInt16.toNat = List.range rs.length ∧
      (ofRecords rs).entries.map (·.form.code) = codes rs.length ∧
      ∃ infos, (ofRecords rs).infos = .ok infos ∧ infos.length = rs.length ∧
        ∀ (i : Nat) (r : Record) (info : Info), rs[i]? = some r → infos[i]? = some info →
          info.Resolves r i (Table.declarePos rs) := by
  obtain ⟨hfirst, hpos, -, hcount⟩ := Table.order_of_read h
  have hdeclare := Table.declarePos_pos hfirst hpos
  have hresolves : ∀ {i : Nat} {r : Record}, rs[i]? = some r →
      ∃ info, Info.decode (entryAt (Table.declarePos rs) r i).form r.packed = .ok info ∧
        info.Resolves r i (Table.declarePos rs) := by
    intro i r hr
    obtain ⟨line, hline⟩ := Table.exists_line h (List.mem_of_getElem? hr)
    have hlt : i < rs.length := (List.getElem?_eq_some_iff.mp hr).1
    exact Record.exists_resolves hline (Nat.lt_of_lt_of_le hlt (Nat.le_succ_of_le hcount)) _
  have hdecodes : ∀ entry ∈ (ofRecords rs).entries,
      ∃ info, Info.decode entry.form entry.packed = .ok info := by
    intro entry hentry
    obtain ⟨i, hi, rfl⟩ := List.mem_mapIdx.mp hentry
    obtain ⟨info, hinfo, -⟩ := hresolves (List.getElem?_eq_getElem hi)
    exact ⟨info, hinfo⟩
  obtain ⟨infos, hforall⟩ := exists_forall₂ hdecodes
  have hinfos : (ofRecords rs).infos = .ok infos := mapM_eq_ok_iff.mpr hforall
  have hlength : infos.length = rs.length := by
    rw [← hforall.length_eq, ofRecords, List.length_mapIdx]
  refine ⟨by omega, hcount, Table.name_declarePos hpos, map_toNat_codes hcount,
    map_code_entries hcount, infos, hinfos, hlength, ?_⟩
  intro i r info hr hinfo
  obtain ⟨info', hdecode, hres⟩ := hresolves hr
  have hentry : (ofRecords rs).entries[i]? = some (entryAt (Table.declarePos rs) r i) := by
    rw [ofRecords, List.getElem?_mapIdx, hr]
    rfl
  obtain ⟨hi, hget⟩ := List.getElem?_eq_some_iff.mp hentry
  obtain ⟨hi', hget'⟩ := List.getElem?_eq_some_iff.mp hinfo
  have hsame := (List.forall₂_iff_get.mp hforall).2 i hi hi'
  rw [List.get_eq_getElem, List.get_eq_getElem, hget, hget'] at hsame
  rw [Except.ok.inj (hsame.symm.trans hdecode)]
  exact hres

/-- A table with fixed operands and with listed ones. -/
def operandTable : List Char :=
  "INVALID bad legacy op=0\nPfadd pfadd 3dnow op=9E\n".toList
    ++ "Vadd vadd evex op=58 ops=VX,HX,WX\nDeclareByte db legacy op=0".toList

/-- The records of the table. -/
def operandRecords : List Record :=
  [{ name := "INVALID".toList, mnemonic := "bad".toList, encoding := .legacy, opCount := 0,
     packed := {} },
    { name := "Pfadd".toList, mnemonic := "pfadd".toList, encoding := .threeDNow, opCount := 2,
      packed := { word1 := 0x9e0004 } },
    { name := "Vadd".toList, mnemonic := "vadd".toList, encoding := .evex, opCount := 3,
      packed := { word1 := 0x580002, word3 := 0x741 } },
    { name := "DeclareByte".toList, mnemonic := "db".toList, encoding := .legacy, opCount := 0,
      packed := {} }]

theorem read_operandTable : Table.read operandTable = .ok operandRecords := by
  rfl

/-- The fixed operands are in use, and the form with listed ones resolves to three. -/
theorem resolves_of_read_operandTable :
    Table.read operandTable = .ok operandRecords ∧
      ∃ infos, (ofRecords operandRecords).infos = .ok infos ∧ infos.length = 4 ∧
        ∀ info, infos[2]? = some info → info.operands.length = 3 := by
  obtain ⟨-, -, -, -, -, infos, hinfos, hlength, hresolves⟩ := resolves_of_read read_operandTable
  exact ⟨read_operandTable, infos, hinfos, hlength, fun info hinfo =>
    (hresolves 2 _ info rfl hinfo).length_operands⟩

end Catalogue

end OpcodeForms
