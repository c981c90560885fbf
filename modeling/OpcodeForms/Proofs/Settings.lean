import OpcodeForms.Proofs.Lines

/-!
# What the words of a line say

A line gives a key a value if `key=value` is one of its words. `Tells` is how an attribute depends
on a line: it has the value that the key is given, or its default if the key is given none. None
of this refers to the order of the words.

Every attribute depends on the line in this way (`Setting.tells`, `Toggle.get_eq_true_iff`).
-/

namespace OpcodeForms

open Enumeration (text)

/-- The line gives the key the value `v`. -/
def Gives (ws : List (List Char)) (key : String) (v : List Char) : Prop :=
  key.toList ++ '=' :: v ∈ ws

instance (ws : List (List Char)) (key : String) (v : List Char) : Decidable (Gives ws key v) :=
  inferInstanceAs (Decidable (_ ∈ _))

/-- `x` is what `read` makes of the value that the line gives the key, and `default` if the line
gives it none. -/
structure Tells {α : Type} (ws : List (List Char)) (key : String) (read : List Char → Option α)
    (default x : α) : Prop where
  given : ∀ v, Gives ws key v → read v = some x
  absent : (∀ v, ¬ Gives ws key v) → x = default

namespace Tells

variable {α β : Type} {ws : List (List Char)} {key : String} {read : List Char → Option α}
  {default x y : α}

/-- The words of a line determine what it tells. -/
theorem unique (h : Tells ws key read default x) (h' : Tells ws key read default y) : x = y := by
  by_cases hgiven : ∃ v, Gives ws key v
  · obtain ⟨v, hv⟩ := hgiven
    exact Option.some.inj ((h.given v hv).symm.trans (h'.given v hv))
  · have habsent : ∀ v, ¬ Gives ws key v := fun v hv => hgiven ⟨v, hv⟩
    rw [h.absent habsent, h'.absent habsent]

/-- What holds of the default and of every value that is read holds of what a line tells. -/
theorem holds {p : α → Prop} (h : Tells ws key read default x) (hdefault : p default)
    (hread : ∀ v y, read v = some y → p y) : p x := by
  by_cases hgiven : ∃ v, Gives ws key v
  · obtain ⟨v, hv⟩ := hgiven
    exact hread v x (h.given v hv)
  · rw [h.absent fun v hv => hgiven ⟨v, hv⟩]
    exact hdefault

/-- What a line tells can be put in other terms, if the values can. -/
theorem map {read' : List Char → Option β} {f : α → β} (h : Tells ws key read default x)
    (hread : ∀ v y, read v = some y → read' v = some (f y)) :
    Tells ws key read' (f default) (f x) where
  given v hv := hread v x (h.given v hv)
  absent hno := congrArg f (h.absent hno)

end Tells

namespace Assignment

variable {α : Type} {e : Encoding} {as : List Assignment} {ws : List (List Char)}

/-! ## Keys with values -/

/-- An attribute that a key decides in the lines of the encodings `used`. -/
structure Setting (α : Type) where
  name : Key
  get : Attributes → α
  read : Encoding → List Char → Option α
  used : Encoding → Bool := fun _ => true
  frame : ∀ a : Assignment, a.keyText ≠ text name → ∀ x : Attributes, get (x.assign a) = get x := by
    intro a h _
    cases a <;> first
      | rfl
      | exact absurd rfl h
      | cases ‹Switch› <;> first | rfl | exact absurd rfl h
  read_eq : ∀ e v a (x : Attributes), used e = true → ValueMakes e name v a →
    read e v = some (get (x.assign a))

/-- The part of the attributes that a setting is about. -/
def Setting.part (S : Setting α) : Part α where
  key := text S.name
  get := S.get
  frame := S.frame

/-- **An attribute is what the line tells.** -/
theorem Setting.tells (S : Setting α) (h : Line e ws as) (hused : S.used e = true) :
    Tells ws (Enumeration.name S.name) (S.read e) (S.get {})
      (S.get (as.foldl Attributes.assign {})) where
  given v hv := by
    obtain ⟨a, ha, hmakes⟩ := h.exists_of_mem hv
    obtain ⟨-, hvalue⟩ := makes_value_iff.mp hmakes
    -- the attribute is read off the attributes `y` at the time of the assignment
    obtain ⟨y, hy⟩ := S.part.get_of_mem h.nodup ha hvalue.keyText_eq {}
    rw [S.read_eq e v a y hused hvalue]
    exact congrArg some hy.symm
  absent hno := by
    apply S.part.get_of_not_mem
    intro hmem
    obtain ⟨a, ha, hkey⟩ := List.mem_map.mp hmem
    obtain ⟨w, hw, hmakes⟩ := h.exists_of_mem' ha
    obtain ⟨v, rfl⟩ := hmakes.eq_value hkey
    exact hno v hw

/-! ## Switches -/

/-- An attribute that a switch turns on. -/
structure Toggle where
  name : Switch
  get : Attributes → Bool
  frame : ∀ a : Assignment, a.keyText ≠ text name → ∀ x : Attributes, get (x.assign a) = get x := by
    intro a h _
    cases a <;> first
      | rfl
      | exact absurd rfl h
      | cases ‹Switch› <;> first | rfl | exact absurd rfl h
  get_assign : ∀ x : Attributes, get (x.assign (.switch name)) = true := by intro _; rfl
  get_default : get {} = false := by rfl

/-- The part of the attributes that a switch is about. -/
def Toggle.part (T : Toggle) : Part Bool where
  key := text T.name
  get := T.get
  frame := T.frame

/-- **A switch is on if it is one of the words.** -/
theorem Toggle.get_eq_true_iff (T : Toggle) (h : Line e ws as) :
    T.get (as.foldl Attributes.assign {}) = true ↔ text T.name ∈ ws := by
  constructor
  · intro hget
    by_cases hmem : text T.name ∈ as.map keyText
    · obtain ⟨a, ha, hkey⟩ := List.mem_map.mp hmem
      obtain ⟨w, hw, hmakes⟩ := h.exists_of_mem' ha
      rwa [hmakes.eq_switch hkey] at hw
    · have hoff := T.part.get_of_not_mem hmem {}
      exact absurd (hget.symm.trans (hoff.trans T.get_default)) Bool.noConfusion
  · intro hw
    obtain ⟨a, ha, hmakes⟩ := h.exists_of_mem hw
    obtain ⟨-, rfl⟩ := makes_switch_iff.mp hmakes
    obtain ⟨y, hy⟩ := T.part.get_of_mem h.nodup ha rfl {}
    exact hy.trans (T.get_assign y)

/-! ## The attributes -/

namespace Setting

/-- An attribute that is stored as its value is read. -/
def stored (name : Key) (get : Attributes → α) (read : List Char → Option α)
    (make : α → Assignment) (used : Encoding → Bool := fun _ => true)
    (value_eq : ∀ e v, used e = true → value? e name v = (read v).map make := by
      intro e v h
      cases e <;> first | rfl | exact absurd h (by decide))
    (name_ne : name ≠ .operands := by decide)
    (get_make : ∀ (x : Attributes) b, get (x.assign (make b)) = b := by intro _ _; rfl)
    (frame : ∀ a : Assignment, a.keyText ≠ text name → ∀ x : Attributes,
        get (x.assign a) = get x := by
      intro a h _
      cases a <;> first
        | rfl
        | exact absurd rfl h
        | cases ‹Switch› <;> first | rfl | exact absurd rfl h) : Setting α where
  name := name
  get := get
  used := used
  read _ := read
  frame := frame
  read_eq e v a x hused h := by
    rw [ValueMakes, if_neg name_ne, value_eq e v hused] at h
    obtain ⟨b, hb, rfl⟩ := Option.map_eq_some_iff.mp h
    rw [hb, get_make]

def opcode : Setting (Option Nat) where
  name := .opcode
  get := Attributes.opcode
  read _ v := (Text.hexAtMost? 0xffff v).map some
  read_eq e v a x _ h := by
    obtain ⟨n, hn, rfl⟩ := Option.map_eq_some_iff.mp h
    exact congrArg (Option.map some) hn

def group : Setting (Option Nat) where
  name := .group
  get := Attributes.group
  read _ v := (Text.hexAtMost? 7 v).map some
  read_eq e v a x _ h := by
    obtain ⟨n, hn, rfl⟩ := Option.map_eq_some_iff.mp h
    exact congrArg (Option.map some) hn

def operands : Setting (List Nat) where
  name := .operands
  get := Attributes.operands
  read e v := (readOperands e v).toOption
  read_eq e v a x _ h := by
    unfold ValueMakes at h
    cases hread : readOperands e v with
    | error err => simp [hread, Except.map] at h
    | ok l =>
      simp only [hread, Except.map, if_true, Except.ok.injEq] at h
      rw [← h]
      rfl

def encodable : Setting Encodable :=
  stored .encodable Attributes.encodable Enumeration.ofName? .encodable

def prefixByte : Setting PrefixByte :=
  stored .prefixByte Attributes.prefixByte Enumeration.ofName? .prefixByte

def legacyMap : Setting LegacyMap :=
  stored .table Attributes.legacyMap Enumeration.ofName? .legacyMap (· == .legacy)

def vectorMap : Setting VectorMap :=
  stored .table Attributes.vectorMap Enumeration.ofName? .vectorMap
    (fun e => e == .vex || e == .evex)

def xopMap : Setting XopMap :=
  stored .table Attributes.xopMap Enumeration.ofName? .xopMap (· == .xop)

def allowedPrefixes : Setting AllowedPrefixes :=
  stored .allowedPrefixes Attributes.allowedPrefixes Enumeration.ofName? .allowedPrefixes

def operandSize : Setting Width :=
  stored .operandSize Attributes.operandSize Enumeration.ofName? .operandSize

def addressSize : Setting Width :=
  stored .addressSize Attributes.addressSize Enumeration.ofName? .addressSize

def vexLength : Setting VexLength :=
  stored .length Attributes.vexLength Enumeration.ofName? .vexLength (· == .vex)

def xopLength : Setting XopLength :=
  stored .length Attributes.xopLength Enumeration.ofName? .xopLength (· == .xop)

def w : Setting WBit :=
  stored .w Attributes.w Enumeration.ofName? .w

def tupleType : Setting TupleType :=
  stored .tupleType Attributes.tupleType Enumeration.ofName? .tupleType

def evexLength : Setting Nat :=
  stored .evexLength Attributes.evexLength (Text.hexAtMost? 3) .evexLength

end Setting

namespace Toggle

def noPrefix : Toggle where
  name := .noPrefix
  get := Attributes.noPrefix

def fwait : Toggle where
  name := .fwait
  get := Attributes.fwait

def lig : Toggle where
  name := .lig
  get := Attributes.lig

def broadcast : Toggle where
  name := .broadcast
  get := Attributes.broadcast

def roundingControl : Toggle where
  name := .roundingControl
  get := Attributes.roundingControl

def sae : Toggle where
  name := .sae
  get := Attributes.sae

def opmask : Toggle where
  name := .opmask
  get := Attributes.opmask

def zeroing : Toggle where
  name := .zeroing
  get := Attributes.zeroing

end Toggle

end Assignment

/-! ## All attributes -/

/-- The attributes are what the words of a line tell. -/
structure Attributes.ToldBy (a : Attributes) (e : Encoding) (ws : List (List Char)) : Prop where
  setting : ∀ {α : Type} (S : Assignment.Setting α), S.used e = true →
    Tells ws (Enumeration.name S.name) (S.read e) (S.get {}) (S.get a)
  toggle : ∀ T : Assignment.Toggle, T.get a = true ↔ text T.name ∈ ws
  not_gives : ∀ k : Key, k.isFor e = false → ∀ v, ¬ Gives ws (Enumeration.name k) v
  not_mem : ∀ s : Switch, s.isFor e = false → text s ∉ ws

theorem Assignment.Line.toldBy {e : Encoding} {ws : List (List Char)} {as : List Assignment}
    (h : Line e ws as) : (as.foldl Attributes.assign {}).ToldBy e ws where
  setting S hused := S.tells h hused
  toggle T := T.get_eq_true_iff h
  not_gives k hk v hv := by
    obtain ⟨a, -, hmakes⟩ := h.exists_of_mem hv
    exact absurd ((makes_value_iff.mp hmakes).1.symm.trans hk) (by decide)
  not_mem s hs hmem := by
    obtain ⟨a, -, hmakes⟩ := h.exists_of_mem hmem
    exact absurd ((makes_switch_iff.mp hmakes).1.symm.trans hs) (by decide)

end OpcodeForms
