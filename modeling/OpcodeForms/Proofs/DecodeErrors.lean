import OpcodeForms.Proofs.Decoding

/-!
# Which records are rejected

Decoding reports the first fault of a record. Most fields cannot be at fault, since each of their
values is the raw value of some member. `checks` lists the others in the order in which decoding
comes to them, `firstFault?` is the first one that a record does not pass, and decoding fails with
exactly this fault (`failure?_decode`).
-/

namespace OpcodeForms

/-! ## Failures -/

section

variable {ε α β : Type}

/-- The error of a failed computation. -/
def failure? : Except ε α → Option ε
  | .error e => some e
  | .ok _ => none

theorem failure?_eq_some_iff {x : Except ε α} {e : ε} : failure? x = some e ↔ x = .error e := by
  cases x <;> simp [failure?]

theorem failure?_eq_none_iff {x : Except ε α} : failure? x = none ↔ ∃ a, x = .ok a := by
  cases x <;> simp [failure?]

/-- If all continuations fail alike, then a sequence fails with the first failure. -/
theorem failure?_bind {x : Except ε α} {f : α → Except ε β} {o o' : Option ε}
    (hx : failure? x = o) (hf : ∀ a, failure? (f a) = o') : failure? (x >>= f) = o.or o' := by
  subst hx
  cases x with
  | error e => rfl
  | ok a => rw [ok_bind, hf a, failure?, Option.none_or]

theorem failure?_bind_pure {x : Except ε α} {f : α → β} :
    failure? (x >>= fun a => pure (f a)) = failure? x := by
  cases x <;> rfl

end

/-! ## The faults of a record -/

/-- A check of a field of the second word: its value has to be less than `bound`. -/
structure Check where
  part : SubField
  /-- What an error calls the field. -/
  name : RecordField
  bound : Nat

/-- The fault of a value that is `bound` or more. -/
def faultOf? (form : Form) (name : RecordField) (bound : Nat) (value : UInt32) :
    Option ConfigError :=
  if bound ≤ value.toNat then some { code := form.code, field := name, value } else none

/-- The fault of a word that does not pass the check. -/
def Check.fault? (c : Check) (form : Form) (e : Encoding) (w : UInt32) : Option ConfigError :=
  match Layout.field? e c.part with
  | none => none
  | some f => faultOf? form c.name c.bound (f.get w)

/-- The checks that a record of the encoding has to pass, in the order of decoding. The modes
are checked for instructions only. -/
def checks (form : Form) (e : Encoding) : List Check :=
  (if e.isVector then [⟨.table, .table, 3⟩] else [])
    ++ (if form.isInstruction then [⟨.encodable, .encodable, 3⟩] else [])
    ++ match e with
      | .legacy => [⟨.allowedPrefixes, .allowedPrefixes, 9⟩]
      | .vex => [⟨.vectorLength, .vectorLength, 6⟩]
      | .evex | .xop | .threeDNow => []

/-- The first fault of a record: an encoding of 5 and more, or the first check of its encoding
that it does not pass. -/
def firstFault? (form : Form) (p : Packed) : Option ConfigError :=
  match (Enumeration.ofRaw? (Layout.encoding.get p.word1).toNat : Option Encoding) with
  | none => some { code := form.code, field := .encoding, value := Layout.encoding.get p.word1 }
  | some e => (checks form e).findSome? fun c => c.fault? form e p.word2

/-! ## Readers -/

namespace Info

variable {α : Type} [DecidableEq α] [Enumeration α] {form : Form} {f : Field} {w : UInt32}
  {field : RecordField}

theorem failure?_readField :
    failure? (readField α form f field w)
      = faultOf? form field (Enumeration.count α) (f.get w) := by
  unfold faultOf?
  by_cases h : Enumeration.count α ≤ (f.get w).toNat
  · rw [if_pos h, readField_eq_error h, failure?]
  · rw [if_neg h]
    exact failure?_eq_none_iff.mpr (exists_readField_eq_ok (Nat.lt_of_not_le h))

/-- A field whose values all are raw values cannot be at fault. -/
theorem failure?_readField_full (h : Enumeration.count α = 2 ^ f.size) :
    failure? (readField α form f field w) = none := by
  rw [failure?_readField, faultOf?, if_neg]
  rw [h]
  exact Nat.not_le_of_lt (f.get_lt w)

theorem failure?_readEncodable :
    failure? (readEncodable form f w)
      = if form.isInstruction then faultOf? form .encodable 3 (f.get w) else none := by
  unfold readEncodable
  cases form.isInstruction with
  | true => exact failure?_readField
  | false => rfl

theorem failure?_readSlots (form : Form) (w : UInt32) {e : Encoding} (he : e ≠ .threeDNow) :
    failure? (readSlots form e w) = none := by
  rw [readSlots_eq he, failure?]

end Info

/-! ## Encodings -/

variable {form : Form} {p : Packed}

/-- The faults of a record, check by check. -/
theorem findSome?_checks (e : Encoding) (w : UInt32) :
    (checks form e).findSome? (fun c => c.fault? form e w)
      = (if e.isVector then Check.fault? ⟨.table, .table, 3⟩ form e w else none).or
        ((if form.isInstruction then Check.fault? ⟨.encodable, .encodable, 3⟩ form e w else none).or
          (match e with
            | .legacy => Check.fault? ⟨.allowedPrefixes, .allowedPrefixes, 9⟩ form e w
            | .vex => Check.fault? ⟨.vectorLength, .vectorLength, 6⟩ form e w
            | .evex | .xop | .threeDNow => none)) := by
  unfold checks
  rw [List.findSome?_append, List.findSome?_append, Option.or_assoc]
  cases form.isInstruction <;> cases e <;> simp [Encoding.isVector]

theorem LegacyFields.failure?_read :
    failure? (LegacyFields.read form p)
      = (checks form .legacy).findSome? fun c => c.fault? form .legacy p.word2 := by
  have hprefix : failure? (Info.readField PrefixByte form Layout.Legacy.shared.prefixByte
      .prefixByte p.word2) = none := Info.failure?_readField_full rfl
  have htable : failure? (Info.readField LegacyMap form Layout.Legacy.shared.table .table
      p.word2) = none := Info.failure?_readField_full rfl
  have hos : failure? (Info.readField Width form Layout.Legacy.operandSize .operandSize
      p.word2) = none := Info.failure?_readField_full rfl
  have has : failure? (Info.readField Width form Layout.Legacy.addressSize .addressSize
      p.word2) = none := Info.failure?_readField_full rfl
  have hslots := Info.failure?_readSlots form p.word3 (show Encoding.legacy ≠ .threeDNow by decide)
  rw [findSome?_checks]
  -- the readers that cannot fail drop out of the alternatives
  refine Eq.trans (failure?_bind hprefix fun _ => failure?_bind htable fun _ =>
    failure?_bind Info.failure?_readEncodable fun _ => failure?_bind Info.failure?_readField
    fun _ => failure?_bind hos fun _ => failure?_bind has fun _ => failure?_bind hslots
    fun _ => rfl) ?_
  simp only [Option.none_or, Option.or_none]
  rfl

theorem VexFields.failure?_read :
    failure? (VexFields.read form p)
      = (checks form .vex).findSome? fun c => c.fault? form .vex p.word2 := by
  have hprefix : failure? (Info.readField PrefixByte form Layout.Vector.shared.prefixByte
      .prefixByte p.word2) = none := Info.failure?_readField_full rfl
  have hslots := Info.failure?_readSlots form p.word3 (show Encoding.vex ≠ .threeDNow by decide)
  rw [findSome?_checks]
  refine Eq.trans (failure?_bind hprefix fun _ => failure?_bind Info.failure?_readField
    fun _ => failure?_bind Info.failure?_readEncodable fun _ => failure?_bind
    Info.failure?_readField fun _ => failure?_bind hslots fun _ => rfl) ?_
  simp only [Option.none_or, Option.or_none]
  rfl

theorem EvexFields.failure?_read :
    failure? (EvexFields.read form p)
      = (checks form .evex).findSome? fun c => c.fault? form .evex p.word2 := by
  have hprefix : failure? (Info.readField PrefixByte form Layout.Vector.shared.prefixByte
      .prefixByte p.word2) = none := Info.failure?_readField_full rfl
  have htuple : failure? (Info.readField TupleType form Layout.Evex.tupleType .tupleType
      p.word2) = none := Info.failure?_readField_full rfl
  have hslots := Info.failure?_readSlots form p.word3 (show Encoding.evex ≠ .threeDNow by decide)
  rw [findSome?_checks]
  refine Eq.trans (failure?_bind hprefix fun _ => failure?_bind Info.failure?_readField
    fun _ => failure?_bind Info.failure?_readEncodable fun _ => failure?_bind htuple
    fun _ => failure?_bind hslots fun _ => rfl) ?_
  simp only [Option.none_or, Option.or_none]
  rfl

theorem XopFields.failure?_read :
    failure? (XopFields.read form p)
      = (checks form .xop).findSome? fun c => c.fault? form .xop p.word2 := by
  have hprefix : failure? (Info.readField PrefixByte form Layout.Vector.shared.prefixByte
      .prefixByte p.word2) = none := Info.failure?_readField_full rfl
  have hlength : failure? (Info.readField XopLength form Layout.Xop.vectorLength .vectorLength
      p.word2) = none := Info.failure?_readField_full rfl
  have hslots := Info.failure?_readSlots form p.word3 (show Encoding.xop ≠ .threeDNow by decide)
  rw [findSome?_checks]
  refine Eq.trans (failure?_bind hprefix fun _ => failure?_bind Info.failure?_readField
    fun _ => failure?_bind Info.failure?_readEncodable fun _ => failure?_bind hlength
    fun _ => failure?_bind hslots fun _ => rfl) ?_
  simp only [Option.none_or, Option.or_none]
  rfl

theorem Info.failure?_readEncodable_threeDNow :
    failure? (readEncodable form Layout.ThreeDNow.encodable p.word2)
      = (checks form .threeDNow).findSome? fun c => c.fault? form .threeDNow p.word2 := by
  rw [findSome?_checks, failure?_readEncodable]
  cases form.isInstruction <;> simp only [Option.or_none] <;> rfl

/-! ## All records -/

/-- **A record is rejected exactly for its first fault.** -/
theorem Info.failure?_decode (form : Form) (p : Packed) :
    failure? (decode form p) = firstFault? form p := by
  unfold decode firstFault?
  cases henc : (Enumeration.ofRaw? (Layout.encoding.get p.word1).toNat : Option Encoding) with
  | none =>
    rw [readField_eq_error (Enumeration.ofRaw?_eq_none_iff.mp henc), error_bind, failure?]
  | some e =>
    rw [readField_eq_ok_iff.mpr (Enumeration.ofRaw?_eq_some_iff.mp henc), ok_bind]
    cases e with
    | legacy => exact failure?_bind_pure.trans LegacyFields.failure?_read
    | vex => exact failure?_bind_pure.trans VexFields.failure?_read
    | evex => exact failure?_bind_pure.trans EvexFields.failure?_read
    | xop => exact failure?_bind_pure.trans XopFields.failure?_read
    | threeDNow => exact failure?_bind_pure.trans failure?_readEncodable_threeDNow

/-- Every fault is about one of five fields, and names the form and the value of the field. -/
theorem field_of_firstFault? {err : ConfigError} (h : firstFault? form p = some err) :
    err.code = form.code ∧
      err.field ∈ [RecordField.encoding, .table, .encodable, .allowedPrefixes, .vectorLength] := by
  unfold firstFault? at h
  split at h
  · cases h
    exact ⟨rfl, List.mem_cons_self⟩
  · next e _ =>
    obtain ⟨c, hc, hfault⟩ := List.exists_of_findSome?_eq_some h
    have hname : ∀ c ∈ checks form e,
        c.name ∈ [RecordField.table, .encodable, .allowedPrefixes, .vectorLength] := by
      unfold checks
      cases form.isInstruction <;> cases e <;> decide
    unfold Check.fault? at hfault
    split at hfault
    · cases hfault
    · unfold faultOf? at hfault
      split at hfault
      · cases hfault
        exact ⟨rfl, List.mem_cons_of_mem _ (hname c hc)⟩
      · cases hfault

end OpcodeForms
