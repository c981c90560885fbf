import OpcodeForms.Proofs.Numerals
import OpcodeForms.Proofs.Records

/-!
# The lines that are accepted

The grammar of table lines, written down as tables of texts: for each encoding the keys with the
values that they take (`Grammar.keys`) and the words that stand alone (`Grammar.switches`).

A line is read without an error exactly if it is a line of the grammar
(`Record.exists_read_iff`).
-/

namespace OpcodeForms

open Enumeration (text)

/-! ## The grammar -/

/-- What a key takes as its value. -/
inductive ValueSet where
  /-- One of some names. -/
  | oneOf (names : List String)
  /-- A hexadecimal numeral up to a bound. -/
  | upTo (bound : Nat)
  /-- At most so many of some names, with commas between them. -/
  | listOf (names : List String) (limit : Nat)

/-- The values of the set. Between commas there may be nothing. -/
def ValueSet.Mem (v : List Char) : ValueSet → Prop
  | oneOf names => ∃ name ∈ names, v = name.toList
  | upTo bound => ∃ n, Text.hexValue? v = some n ∧ n ≤ bound
  | listOf names limit =>
    (Assignment.operandNames v).length ≤ limit ∧
      ∀ s ∈ Assignment.operandNames v, ∃ name ∈ names, s = name.toList

namespace Grammar

def legacyOperands : List String :=
  ["Eb", "Ew", "Ed", "Eq", "Gb", "Gw", "Gd", "Gq", "Zd", "Zq", "Ib", "Id", "VX", "WX", "M"]

def vexOperands : List String :=
  ["Ed", "Eq", "Gd", "Gq", "Hd", "HX", "HY", "Ib", "Is4X", "Is4Y", "M", "VX", "VY", "WX", "WY"]

def evexOperands : List String :=
  ["VX", "VY", "VZ", "HX", "HY", "HZ", "WX", "WY", "WZ", "VM32X", "VM32Y", "VM32Z", "VM64X",
    "VM64Y", "VM64Z"]

def xopOperands : List String :=
  ["Ed", "Eq", "Gd", "Gq", "Hd", "Hq", "HX", "HY", "Ib", "Is4X", "Is4Y", "VX", "VY", "WX", "WY"]

def modes : List String :=
  ["any", "1632", "64"]

def prefixBytes : List String :=
  ["none", "66", "F3", "F2"]

def sizes : List String :=
  ["none", "16", "32", "64"]

def permissions : List String :=
  ["none", "bnd", "bnd_notrack", "hnt_bnd", "lock", "rep", "rep_repne", "xacquire_xrelease_lock",
    "xrelease"]

def wBits : List String :=
  ["W0", "W1", "WIG", "WIG32"]

def tupleTypes : List String :=
  ["none", "Full_128", "Full_256", "Full_512", "Half_128", "Half_256", "Half_512",
    "Full_Mem_128", "Full_Mem_256", "Full_Mem_512", "Tuple1_Scalar", "Tuple1_Scalar_1",
    "Tuple1_Scalar_2", "Tuple1_Scalar_4", "Tuple1_Scalar_8", "Tuple1_Fixed", "Tuple1_Fixed_4",
    "Tuple1_Fixed_8", "Tuple2", "Tuple4", "Tuple8", "Tuple1_4X", "Half_Mem_128", "Half_Mem_256",
    "Half_Mem_512", "Quarter_Mem_128", "Quarter_Mem_256", "Quarter_Mem_512", "Eighth_Mem_128",
    "Eighth_Mem_256", "Eighth_Mem_512", "Mem128"]

/-- The keys of an encoding that take a value. -/
def keys : Encoding → List (String × ValueSet)
  | .legacy =>
    [("op", .upTo 0xffff), ("ops", .listOf legacyOperands 4), ("mode", .oneOf modes),
      ("mp", .oneOf prefixBytes), ("table", .oneOf ["normal", "0F", "0F38", "0F3A"]),
      ("group", .upTo 7), ("allow", .oneOf permissions), ("os", .oneOf sizes),
      ("as", .oneOf sizes)]
  | .vex =>
    [("op", .upTo 0xffff), ("ops", .listOf vexOperands 5), ("mode", .oneOf modes),
      ("mp", .oneOf prefixBytes), ("table", .oneOf ["0F", "0F38", "0F3A"]), ("group", .upTo 7),
      ("l", .oneOf ["LZ", "L0", "L1", "128", "256", "LIG"]), ("w", .oneOf wBits)]
  | .evex =>
    [("op", .upTo 0xffff), ("ops", .listOf evexOperands 4), ("mode", .oneOf modes),
      ("mp", .oneOf prefixBytes), ("table", .oneOf ["0F", "0F38", "0F3A"]), ("group", .upTo 7),
      ("w", .oneOf wBits), ("tuple", .oneOf tupleTypes), ("ll", .upTo 3)]
  | .xop =>
    [("op", .upTo 0xffff), ("ops", .listOf xopOperands 4), ("mode", .oneOf modes),
      ("mp", .oneOf prefixBytes), ("table", .oneOf ["X8", "X9", "XA"]), ("group", .upTo 7),
      ("l", .oneOf ["128", "256", "L0", "L1"]), ("w", .oneOf wBits)]
  | .threeDNow => [("op", .upTo 0xffff), ("mode", .oneOf modes)]

/-- The words of an encoding that stand alone. -/
def switches : Encoding → List String
  | .legacy => ["np", "fwait"]
  | .evex => ["lig", "b", "er", "sae", "k1", "z"]
  | .vex | .xop | .threeDNow => []

/-- The names of the encodings. -/
def encodings : List (String × Encoding) :=
  [("legacy", .legacy), ("vex", .vex), ("evex", .evex), ("xop", .xop), ("3dnow", .threeDNow)]

/-- A word that can stand in the lines of an encoding. -/
inductive Admissible (e : Encoding) : List Char → Prop
  | value {key : String} {values : ValueSet} {v : List Char} (mem : (key, values) ∈ keys e)
    (admits : values.Mem v) : Admissible e (key.toList ++ '=' :: v)
  | switch {key : String} (mem : key ∈ switches e) : Admissible e key.toList

/-- An ASCII letter. -/
def IsLetter (c : Char) : Prop :=
  ('A' ≤ c ∧ c ≤ 'Z') ∨ ('a' ≤ c ∧ c ≤ 'z')

/-- A letter, then letters, digits and underscores. -/
inductive IsIdentifier : List Char → Prop
  | mk {c : Char} {s : List Char} (head : IsLetter c)
    (tail : ∀ d ∈ s, IsLetter d ∨ ('0' ≤ d ∧ d ≤ '9') ∨ d = '_') : IsIdentifier (c :: s)

/-- The key of a word: what stands before the first equals sign, or all of it. -/
def keyOf (word : List Char) : List Char :=
  word.takeWhile (· != '=')

/-- A line of the grammar. -/
inductive IsLine : List Char → Prop
  | mk {line name mnemonic : List Char} {encoding : String} {e : Encoding} {ws : List (List Char)}
    (words : Text.words line = name :: mnemonic :: encoding.toList :: ws)
    (identifier : IsIdentifier name)
    (encoding : (encoding, e) ∈ encodings)
    (nodup : (ws.map keyOf).Nodup)
    (opcode : ∃ v, Gives ws "op" v)
    (admissible : ∀ w ∈ ws, Admissible e w) : IsLine line

end Grammar

/-! ## Values -/

variable {e : Encoding} {v w s : List Char} {k : Key} {α : Type} [DecidableEq α] [Enumeration α]

namespace Assignment

/-- The names of the members of an enumeration. -/
def namesOf (α : Type) [DecidableEq α] [Enumeration α] : List String :=
  (Enumeration.all : List α).map Enumeration.name

/-- The names of an enumeration are read. -/
theorem exists_ofName?_iff {make : α → Assignment} :
    (∃ a, (Enumeration.ofName? v).map make = some a) ↔ (ValueSet.oneOf (namesOf α)).Mem v := by
  constructor
  · rintro ⟨a, ha⟩
    obtain ⟨b, hb, -⟩ := Option.map_eq_some_iff.mp ha
    exact ⟨_, List.mem_map_of_mem (Enumeration.mem_all b), Enumeration.ofName?_eq_some_iff.mp hb⟩
  · rintro ⟨name, hname, rfl⟩
    obtain ⟨b, -, rfl⟩ := List.mem_map.mp hname
    exact ⟨make b, congrArg (Option.map make) (Enumeration.ofName?_text b)⟩

/-- The numerals up to a bound are read. -/
theorem exists_hexAtMost?_iff {bound : Nat} {make : Nat → Assignment}
    (h : bound < UInt32.size := by decide) :
    (∃ a, (Text.hexAtMost? bound v).map make = some a) ↔ (ValueSet.upTo bound).Mem v := by
  constructor
  · rintro ⟨a, ha⟩
    obtain ⟨n, hn, -⟩ := Option.map_eq_some_iff.mp ha
    exact ⟨n, (Text.hexAtMost?_eq_some_iff h).mp hn⟩
  · rintro ⟨n, hn⟩
    exact ⟨make n, congrArg (Option.map make) ((Text.hexAtMost?_eq_some_iff h).mpr hn)⟩

/-- The names of the operands that can be listed, which are all but that of an unused slot. -/
def listedNames (e : Encoding) : List String :=
  (OperandCode.all e).tail.map OperandCode.name

/-- The name of an unused slot is not one of them. -/
theorem not_mem_listedNames {c : OperandCode} {cs : List OperandCode}
    (h : OperandCode.all e = c :: cs) : c.name ∉ cs.map OperandCode.name := by
  have hnodup : ((OperandCode.all e).map OperandCode.name).Nodup := by
    cases e <;> decide
  rw [h, List.map_cons] at hnodup
  exact (List.nodup_cons.mp hnodup).1

theorem exists_operandIndex_iff :
    (∃ i, operandIndex e s = .ok i) ↔ ∃ name ∈ listedNames e, s = name.toList := by
  simp only [operandIndex_eq_ok_iff, OperandCode.indexOf?, listedNames]
  cases hall : OperandCode.all e with
  | nil => simp
  | cons c cs =>
    rw [List.findIdx?_cons, List.tail_cons]
    by_cases hc : c.name.toList = s
    · rw [if_pos (beq_iff_eq.mpr hc)]
      constructor
      · rintro ⟨i, hi, hne⟩
        exact absurd (Option.some.inj hi).symm hne
      · rintro ⟨name, hname, hs⟩
        have heq : c.name = name := String.toList_inj.mp (hc.trans hs)
        exact absurd (heq ▸ hname) (not_mem_listedNames hall)
    · rw [if_neg (beq_iff_eq.not.mpr hc)]
      constructor
      · rintro ⟨i, hi, -⟩
        obtain ⟨j, hj, -⟩ := Option.map_eq_some_iff.mp hi
        obtain ⟨hlt, hname, -⟩ := List.findIdx?_eq_some_iff_getElem.mp hj
        exact ⟨_, List.mem_map_of_mem (List.getElem_mem hlt), (beq_iff_eq.mp hname).symm⟩
      · rintro ⟨name, hname, rfl⟩
        obtain ⟨c', hc', rfl⟩ := List.mem_map.mp hname
        have hfound : (cs.findIdx? fun d => d.name.toList == c'.name.toList).isSome = true :=
          List.findIdx?_isSome.trans (List.any_eq_true.mpr ⟨c', hc', beq_self_eq_true _⟩)
        obtain ⟨j, hj⟩ := Option.isSome_iff_exists.mp hfound
        exact ⟨j + 1, by rw [hj]; rfl, Nat.succ_ne_zero j⟩

/-- The lists of operands are read. -/
theorem exists_readOperands_iff (he : e ≠ .threeDNow) :
    (∃ l, readOperands e v = .ok l) ↔ (ValueSet.listOf (listedNames e) e.opSlots).Mem v := by
  constructor
  · rintro ⟨l, hl⟩
    obtain ⟨-, hlength, hnames⟩ := readOperands_eq_ok_iff.mp hl
    refine ⟨hlength, fun s hs => ?_⟩
    obtain ⟨i, -, hi⟩ := exists_of_forall₂_left hnames hs
    exact exists_operandIndex_iff.mp ⟨i, hi⟩
  · rintro ⟨hlength, hnames⟩
    obtain ⟨l, hl⟩ := exists_forall₂ fun s hs => exists_operandIndex_iff.mpr (hnames s hs)
    exact ⟨l, readOperands_eq_ok_iff.mpr ⟨he, hlength, hl⟩⟩

end Assignment

/-! ## Keys -/

namespace Key

/-- The values of the key, by the lists and bounds that they are read with. -/
def values (e : Encoding) : Key → ValueSet
  | .opcode => .upTo 0xffff
  | .operands => .listOf (Assignment.listedNames e) e.opSlots
  | .encodable => .oneOf (Assignment.namesOf Encodable)
  | .prefixByte => .oneOf (Assignment.namesOf PrefixByte)
  | .table =>
    match e with
    | .legacy => .oneOf (Assignment.namesOf LegacyMap)
    | .vex | .evex => .oneOf (Assignment.namesOf VectorMap)
    | .xop => .oneOf (Assignment.namesOf XopMap)
    | .threeDNow => .oneOf []
  | .group => .upTo 7
  | .allowedPrefixes => .oneOf (Assignment.namesOf AllowedPrefixes)
  | .operandSize | .addressSize => .oneOf (Assignment.namesOf Width)
  | .length =>
    match e with
    | .vex => .oneOf (Assignment.namesOf VexLength)
    | .xop => .oneOf (Assignment.namesOf XopLength)
    | .legacy | .evex | .threeDNow => .oneOf []
  | .w => .oneOf (Assignment.namesOf WBit)
  | .tupleType => .oneOf (Assignment.namesOf TupleType)
  | .evexLength => .upTo 3

/-- Whether the key can be given a value in the lines of the encoding. -/
def isUsed (e : Encoding) (k : Key) : Bool :=
  k.isFor e && (k != operands || e != .threeDNow)

/-- **The grammar has the keys and the values that are read.** -/
theorem keys_eq (e : Encoding) : Grammar.keys e
    = ((Enumeration.all : List Key).filter (isUsed e)).map
      fun k => (Enumeration.name k, k.values e) := by
  cases e <;> rfl

theorem switches_eq (e : Encoding) : Grammar.switches e
    = ((Enumeration.all : List Switch).filter (Switch.isFor e)).map Enumeration.name := by
  cases e <;> rfl

/-- A value makes an assignment if the key is used and takes it. -/
theorem exists_valueMakes_iff (h : k.isFor e = true) :
    (∃ a, Assignment.ValueMakes e k v a) ↔ k.isUsed e = true ∧ (k.values e).Mem v := by
  by_cases hops : k = .operands
  · subst hops
    have hmakes : ∀ a, Assignment.ValueMakes e .operands v a ↔
        ∃ l, Assignment.readOperands e v = .ok l ∧ Assignment.operands l = a := by
      intro a
      rw [Assignment.ValueMakes, if_pos rfl]
      cases Assignment.readOperands e v <;> simp [Except.map]
    have hused : isUsed e .operands = true ↔ e ≠ .threeDNow := by
      cases e <;> decide
    simp only [hmakes, hused]
    constructor
    · rintro ⟨a, l, hl, -⟩
      have he := (Assignment.readOperands_eq_ok_iff.mp hl).1
      exact ⟨he, (Assignment.exists_readOperands_iff he).mp ⟨l, hl⟩⟩
    · rintro ⟨he, hv⟩
      obtain ⟨l, hl⟩ := (Assignment.exists_readOperands_iff he).mpr hv
      exact ⟨.operands l, l, hl, rfl⟩
  · have hused : k.isUsed e = true := by
      rw [isUsed, h, bne_iff_ne.mpr hops]
      rfl
    simp only [Assignment.ValueMakes, if_neg hops, hused, true_and]
    cases k with
    | operands => exact absurd rfl hops
    | opcode | group | evexLength => exact Assignment.exists_hexAtMost?_iff
    | encodable | prefixByte | allowedPrefixes | operandSize | addressSize | w | tupleType =>
      exact Assignment.exists_ofName?_iff
    | table =>
      cases e with
      | legacy | vex | evex | xop => exact Assignment.exists_ofName?_iff
      | threeDNow => cases h
    | length =>
      cases e with
      | vex | xop => exact Assignment.exists_ofName?_iff
      | legacy | evex | threeDNow => cases h

end Key

/-! ## Words and lines -/

/-- **The words that make an assignment are those of the grammar.** -/
theorem Assignment.exists_makes_iff : (∃ a, Makes e w a) ↔ Grammar.Admissible e w := by
  constructor
  · rintro ⟨a, hmakes⟩
    cases hmakes with
    | @value k v a hfor hvalue =>
      obtain ⟨hused, hmem⟩ := (Key.exists_valueMakes_iff hfor).mp ⟨a, hvalue⟩
      have hkey : (Enumeration.name k, k.values e) ∈ Grammar.keys e := by
        rw [Key.keys_eq]
        exact List.mem_map_of_mem (List.mem_filter.mpr ⟨Enumeration.mem_all k, hused⟩)
      exact .value hkey hmem
    | @switch s hfor =>
      refine .switch ?_
      rw [Key.switches_eq]
      exact List.mem_map_of_mem (List.mem_filter.mpr ⟨Enumeration.mem_all s, hfor⟩)
  · intro h
    cases h with
    | value hmem hadmits =>
      rw [Key.keys_eq] at hmem
      obtain ⟨k, hk, heq⟩ := List.mem_map.mp hmem
      cases heq
      have hused : k.isUsed e = true := (List.mem_filter.mp hk).2
      have hfor : k.isFor e = true := (Bool.and_eq_true_iff.mp hused).1
      obtain ⟨a, ha⟩ := (Key.exists_valueMakes_iff hfor).mpr ⟨hused, hadmits⟩
      exact ⟨a, .value hfor ha⟩
    | switch hmem =>
      rw [Key.switches_eq] at hmem
      obtain ⟨s, hs, rfl⟩ := List.mem_map.mp hmem
      exact ⟨.switch s, .switch (List.mem_filter.mp hs).2⟩

namespace Record

variable {name mnemonic line : List Char} {ws : List (List Char)}

theorem isAlpha_iff {c : Char} : c.isAlpha = true ↔ Grammar.IsLetter c := by
  have hupper : c.isUpper = true ↔ 'A' ≤ c ∧ c ≤ 'Z' := decide_eq_true_iff
  have hlower : c.isLower = true ↔ 'a' ≤ c ∧ c ≤ 'z' := by
    change (decide (c.val ≥ 'a'.val) && decide (c.val ≤ 'z'.val)) = true ↔ _
    rw [Bool.and_eq_true, decide_eq_true_eq, decide_eq_true_eq]
    rfl
  change (c.isUpper || c.isLower) = true ↔ _
  rw [Bool.or_eq_true, hupper, hlower]
  rfl

theorem isAlphanum_iff {c : Char} :
    c.isAlphanum = true ↔ Grammar.IsLetter c ∨ ('0' ≤ c ∧ c ≤ '9') := by
  simp only [Char.isAlphanum, Bool.or_eq_true, isAlpha_iff, Char.isDigit, Bool.and_eq_true,
    decide_eq_true_eq]
  rfl

theorem isName_iff : isName name = true ↔ Grammar.IsIdentifier name := by
  cases name with
  | nil => exact ⟨nofun, nofun⟩
  | cons c s =>
    simp only [isName, Bool.and_eq_true, List.all_eq_true, Bool.or_eq_true, decide_eq_true_eq,
      isAlpha_iff, isAlphanum_iff, or_assoc]
    constructor
    · rintro ⟨hhead, htail⟩
      exact .mk hhead htail
    · rintro (⟨hhead, htail⟩ : Grammar.IsIdentifier _)
      exact ⟨hhead, htail⟩

/-- The words after the encoding are accepted if they are admissible, with different keys, and one
of them gives the opcode. -/
theorem exists_ofWords_iff (name mnemonic : List Char) :
    (∃ r, ofWords name mnemonic e ws = .ok r) ↔
      (ws.map Grammar.keyOf).Nodup ∧ (∃ v, Gives ws "op" v) ∧
        ∀ w ∈ ws, Grammar.Admissible e w := by
  constructor
  · rintro ⟨r, h⟩
    obtain ⟨as, hline, hopcode, -⟩ := ofWords_eq_ok_iff.mp h
    refine ⟨?_, ?_, fun w hw => ?_⟩
    · exact (Assignment.map_keyOf_eq hline.makes).symm ▸ hline.nodup
    · by_contra hnone
      have habsent := (Assignment.Setting.opcode.tells hline rfl).absent (not_exists.mp hnone)
      exact Option.isSome_iff_ne_none.mp hopcode habsent
    · obtain ⟨a, -, ha⟩ := hline.exists_of_mem hw
      exact Assignment.exists_makes_iff.mp ⟨a, ha⟩
  · rintro ⟨hnodup, ⟨v, hv⟩, hadmissible⟩
    obtain ⟨as, has⟩ := exists_forall₂ fun w hw =>
      Assignment.exists_makes_iff.mpr (hadmissible w hw)
    have hline : Assignment.Line e ws as := ⟨has, Assignment.map_keyOf_eq has ▸ hnodup⟩
    have hgiven := (Assignment.Setting.opcode.tells hline rfl).given v hv
    obtain ⟨n, -, hn⟩ := Option.map_eq_some_iff.mp hgiven
    have hopcode : (as.foldl Attributes.assign {}).opcode = some n := hn.symm
    exact ⟨_, ofWords_eq_ok_iff.mpr ⟨as, hline, hopcode ▸ rfl, rfl⟩⟩

/-- **A line is read without an error exactly if it is a line of the grammar.** -/
theorem exists_read_iff : (∃ r, read line = .ok r) ↔ Grammar.IsLine line := by
  constructor
  · rintro ⟨r, h⟩
    obtain ⟨name, mnemonic, e, ws, hwords, hname, h⟩ := read_eq_ok_iff.mp h
    obtain ⟨hnodup, hopcode, hadmissible⟩ := (exists_ofWords_iff name mnemonic).mp ⟨r, h⟩
    refine .mk hwords (isName_iff.mp hname) ?_ hnodup hopcode hadmissible
    cases e <;> decide
  · intro h
    cases h with
    | @mk name mnemonic encoding e ws hwords hname he hnodup hopcode hadmissible =>
      have hnames : ∀ entry ∈ Grammar.encodings, text entry.2 = entry.1.toList := by decide
      have hencoding : text e = encoding.toList := hnames _ he
      obtain ⟨r, hr⟩ := (exists_ofWords_iff name mnemonic).mpr ⟨hnodup, hopcode, hadmissible⟩
      rw [← hencoding] at hwords
      exact ⟨r, read_eq_ok_iff.mpr ⟨name, mnemonic, e, ws, hwords, isName_iff.mpr hname, hr⟩⟩

end Record

end OpcodeForms
