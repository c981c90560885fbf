import Mathlib.Data.List.Nodup
import Mathlib.Data.List.Perm.Basic
import OpcodeForms.Proofs.Cutting
import OpcodeForms.Proofs.Readers
import OpcodeForms.Source.Record

/-!
# What a table line assigns

A line is accepted if each of its words makes an assignment and no two of them have the same
key. `Assignment.Makes` relates a word to its assignment, and `Assignment.Line` a whole line to
its assignments.

The attributes of a line are what its assignments leave behind. A part of them that only one key
touches is decided by the assignment of this key, whatever the order (`Part.get_of_mem`).
-/

namespace OpcodeForms

open Enumeration (text)

/-! ## Lists in step -/

section

variable {α β : Type} {R : α → β → Prop} {l : List α} {l' : List β}

theorem exists_of_forall₂_left (h : List.Forall₂ R l l') {a : α} (ha : a ∈ l) :
    ∃ b ∈ l', R a b := by
  induction h with
  | nil => cases ha
  | @cons _ b _ _ hab _ ih =>
    rcases List.mem_cons.mp ha with rfl | ha
    · exact ⟨b, List.mem_cons_self, hab⟩
    · obtain ⟨b', hb', hR⟩ := ih ha
      exact ⟨b', List.mem_cons_of_mem _ hb', hR⟩

theorem exists_of_forall₂_right (h : List.Forall₂ R l l') {b : β} (hb : b ∈ l') :
    ∃ a ∈ l, R a b :=
  exists_of_forall₂_left (R := fun b a => R a b) h.flip hb

theorem exists_forall₂ : ∀ {l : List α}, (∀ a ∈ l, ∃ b, R a b) → ∃ l', List.Forall₂ R l l'
  | [], _ => ⟨[], .nil⟩
  | a :: l, h => by
    obtain ⟨b, hb⟩ := h a List.mem_cons_self
    obtain ⟨l', hl'⟩ := exists_forall₂ fun c hc => h c (List.mem_cons_of_mem a hc)
    exact ⟨b :: l', .cons hb hl'⟩

end

/-! ## Names without special characters -/

/-- No key has an equals sign in its name. -/
theorem Key.not_mem_text (k : Key) : '=' ∉ text k := by
  cases k <;> decide

theorem Switch.not_mem_text (s : Switch) : '=' ∉ text s := by
  cases s <;> decide

/-- A key that takes a value cannot stand alone. -/
theorem Key.text_ne_text (k : Key) (s : Switch) : text k ≠ text s := by
  cases k <;> cases s <;> decide

/-- A word with a value determines its key and its value. -/
theorem Key.word_inj {k k' : Key} {v v' : List Char}
    (h : text k ++ '=' :: v = text k' ++ '=' :: v') : k = k' ∧ v = v' := by
  have hkey := congrArg (Text.before '=') h
  have hvalue := congrArg (Text.after? '=') h
  rw [Text.before_append_cons k.not_mem_text, Text.before_append_cons k'.not_mem_text] at hkey
  rw [Text.after?_append_cons k.not_mem_text, Text.after?_append_cons k'.not_mem_text] at hvalue
  exact ⟨Enumeration.text_inj hkey, Option.some.inj hvalue⟩

/-- A word with a value is no switch. -/
theorem Key.word_ne_text (k : Key) (v : List Char) (s : Switch) :
    text k ++ '=' :: v ≠ text s :=
  fun h => s.not_mem_text (h ▸ List.mem_append_right _ List.mem_cons_self)

namespace Assignment

variable {e : Encoding} {w key v : List Char} {a b : Assignment} {as bs : List Assignment}
  {ws ws' : List (List Char)}

/-- The key of the words that make the assignment. -/
def keyText : Assignment → List Char
  | .opcode _ => text Key.opcode
  | .operands _ => text Key.operands
  | .encodable _ => text Key.encodable
  | .prefixByte _ => text Key.prefixByte
  | .legacyMap _ | .vectorMap _ | .xopMap _ => text Key.table
  | .group _ => text Key.group
  | .allowedPrefixes _ => text Key.allowedPrefixes
  | .operandSize _ => text Key.operandSize
  | .addressSize _ => text Key.addressSize
  | .vexLength _ | .xopLength _ => text Key.length
  | .w _ => text Key.w
  | .tupleType _ => text Key.tupleType
  | .evexLength _ => text Key.evexLength
  | .switch s => text s

/-! ## Words -/

/-- The value `v` of the key `k` makes the assignment `a`. -/
def ValueMakes (e : Encoding) (k : Key) (v : List Char) (a : Assignment) : Prop :=
  if k = .operands then (readOperands e v).map operands = .ok a else value? e k v = some a

/-- A word makes an assignment in the lines of an encoding. -/
inductive Makes (e : Encoding) : List Char → Assignment → Prop
  | value {k : Key} {v : List Char} {a : Assignment} (allowed : k.isFor e = true)
      (makes : ValueMakes e k v a) : Makes e (text k ++ '=' :: v) a
  | switch {s : Switch} (allowed : s.isFor e = true) : Makes e (text s) (.switch s)

theorem ofKeyValue_eq_ok_iff :
    ofKeyValue e key v = .ok a ↔ ∃ k, key = text k ∧ k.isFor e = true ∧ ValueMakes e k v a := by
  unfold ofKeyValue ValueMakes
  constructor
  · intro h
    split at h
    · cases h
    · next k hk =>
      refine ⟨k, Enumeration.ofName?_eq_some_iff.mp hk, ?_⟩
      cases hfor : k.isFor e with
      | false => simp [hfor] at h
      | true =>
        simp only [hfor, Bool.not_true, Bool.false_eq_true, if_false] at h
        refine ⟨rfl, ?_⟩
        by_cases hops : k = .operands
        · rwa [if_pos hops] at h ⊢
        · rw [if_neg hops] at h ⊢
          split at h
          · next hv => exact Except.ok.inj h ▸ hv
          · cases h
  · rintro ⟨k, rfl, hfor, h⟩
    rw [Enumeration.ofName?_text]
    simp only [hfor, Bool.not_true, Bool.false_eq_true, if_false]
    by_cases hops : k = .operands
    · rwa [if_pos hops] at h ⊢
    · rw [if_neg hops] at h ⊢
      rw [h]

theorem ofSwitch_eq_ok_iff :
    ofSwitch e key = .ok a ↔ ∃ s : Switch, key = text s ∧ s.isFor e = true ∧ a = .switch s := by
  unfold ofSwitch
  constructor
  · intro h
    split at h
    · cases h
    · next s hs =>
      split at h
      · next hfor => exact ⟨s, Enumeration.ofName?_eq_some_iff.mp hs, hfor, (Except.ok.inj h).symm⟩
      · cases h
  · rintro ⟨s, rfl, hfor, rfl⟩
    rw [Enumeration.ofName?_text]
    exact if_pos hfor

/-- **A word is accepted exactly with the assignment that it makes.** -/
theorem ofWord_eq_ok_iff : ofWord e w = .ok a ↔ Makes e w a := by
  unfold ofWord keyOf
  constructor
  · intro h
    split at h
    · next v hv =>
      obtain ⟨k, hkey, hfor, hmakes⟩ := ofKeyValue_eq_ok_iff.mp h
      rw [Text.after?_eq_some_iff.mp hv, hkey]
      exact .value hfor hmakes
    · obtain ⟨s, rfl, hfor, rfl⟩ := ofSwitch_eq_ok_iff.mp h
      exact .switch hfor
  · intro h
    cases h with
    | @value k v a hfor hmakes =>
      rw [Text.after?_append_cons k.not_mem_text, Text.before_append_cons k.not_mem_text]
      exact ofKeyValue_eq_ok_iff.mpr ⟨k, rfl, hfor, hmakes⟩
    | @switch s hfor =>
      rw [Text.after?_eq_none_iff.mpr s.not_mem_text]
      exact ofSwitch_eq_ok_iff.mpr ⟨s, rfl, hfor, rfl⟩

/-- A value makes an assignment of its key. -/
theorem ValueMakes.keyText_eq {k : Key} (h : ValueMakes e k v a) : a.keyText = text k := by
  unfold ValueMakes value? at h
  cases k
  case operands =>
    cases hread : readOperands e v with
    | error err => simp [hread, Except.map] at h
    | ok l =>
      simp only [hread, Except.map, if_true, Except.ok.injEq] at h
      rw [← h]
      rfl
  case table =>
    cases e <;> simp only [reduceCtorEq, if_false, Option.map_eq_some_iff] at h <;>
      (obtain ⟨_, _, rfl⟩ := h; rfl)
  case length =>
    cases e <;> simp only [reduceCtorEq, if_false, Option.map_eq_some_iff] at h <;>
      (obtain ⟨_, _, rfl⟩ := h; rfl)
  all_goals
    simp only [reduceCtorEq, if_false, Option.map_eq_some_iff] at h
    obtain ⟨_, _, rfl⟩ := h
    rfl

/-- The key of a word is that of its assignment. -/
theorem Makes.keyOf_eq (h : Makes e w a) : keyOf w = a.keyText := by
  unfold keyOf
  cases h with
  | @value k v a _ hmakes =>
    rw [Text.before_append_cons k.not_mem_text]
    exact hmakes.keyText_eq.symm
  | @switch s _ => exact Text.before_of_not_mem s.not_mem_text

/-- The word of a key with a value makes the assignment of the value. -/
theorem makes_value_iff {k : Key} :
    Makes e (text k ++ '=' :: v) a ↔ k.isFor e = true ∧ ValueMakes e k v a := by
  constructor
  · intro h
    generalize hw : text k ++ '=' :: v = w at h
    cases h with
    | @value k' v' _ hfor hmakes =>
      obtain ⟨rfl, rfl⟩ := Key.word_inj hw
      exact ⟨hfor, hmakes⟩
    | @switch s _ => exact absurd hw (k.word_ne_text v s)
  · rintro ⟨hfor, hmakes⟩
    exact .value hfor hmakes

/-- The word of a switch turns it on. -/
theorem makes_switch_iff {s : Switch} :
    Makes e (text s) a ↔ s.isFor e = true ∧ a = .switch s := by
  constructor
  · intro h
    generalize hw : text s = w at h
    cases h with
    | @value k v _ _ _ => exact absurd hw.symm (k.word_ne_text v s)
    | switch hfor =>
      cases Enumeration.text_inj hw
      exact ⟨hfor, rfl⟩
  · rintro ⟨hfor, rfl⟩
    exact .switch hfor

/-- An assignment of the key comes from a word of the key. -/
theorem Makes.eq_value {k : Key} (h : Makes e w a) (hkey : a.keyText = text k) :
    ∃ v, w = text k ++ '=' :: v := by
  cases h with
  | @value k' v _ _ hmakes =>
    cases Enumeration.text_inj (hmakes.keyText_eq.symm.trans hkey)
    exact ⟨v, rfl⟩
  | switch _ => exact absurd hkey.symm (Key.text_ne_text k _)

/-- An assignment of the key of a switch comes from the switch. -/
theorem Makes.eq_switch {s : Switch} (h : Makes e w a) (hkey : a.keyText = text s) :
    w = text s := by
  cases h with
  | value _ hmakes => exact absurd (hmakes.keyText_eq.symm.trans hkey) (Key.text_ne_text _ s)
  | switch _ => exact hkey

/-! ## Lines -/

/-- A line with assignments for all its words, no two of which have the same key. -/
structure Line (e : Encoding) (ws : List (List Char)) (as : List Assignment) : Prop where
  makes : List.Forall₂ (Makes e) ws as
  nodup : (as.map keyText).Nodup

theorem map_keyOf_eq (h : List.Forall₂ (Makes e) ws as) : ws.map keyOf = as.map keyText := by
  induction h with
  | nil => rfl
  | cons hmakes _ ih => rw [List.map_cons, List.map_cons, hmakes.keyOf_eq, ih]

theorem ofWords_eq_ok_iff_of_seen {seen : List (List Char)} :
    ofWords e seen ws = .ok as ↔
      Line e ws as ∧ ∀ a ∈ as, a.keyText ∉ seen := by
  -- every word adds its key to those seen, so these vary in the induction
  induction ws generalizing seen as with
  | nil =>
    constructor
    · intro h
      cases h
      exact ⟨⟨.nil, List.nodup_nil⟩, fun a ha => by cases ha⟩
    · rintro ⟨⟨hmakes, _⟩, _⟩
      cases hmakes
      rfl
  | cons w ws ih =>
    unfold ofWords
    constructor
    · intro h
      split at h
      · cases h
      · next hseen =>
        obtain ⟨a, ha, h⟩ := bind_eq_ok_iff.mp h
        obtain ⟨as', has, h⟩ := bind_eq_ok_iff.mp h
        cases pure_eq_ok_iff.mp h
        have hw := ofWord_eq_ok_iff.mp ha
        obtain ⟨⟨hmakes, hnodup⟩, hnew⟩ := ih.mp has
        rw [hw.keyOf_eq] at hseen hnew
        refine ⟨⟨.cons hw hmakes, ?_⟩, ?_⟩
        · refine List.nodup_cons.mpr ⟨?_, hnodup⟩
          intro hmem
          obtain ⟨b, hb, hkey⟩ := List.mem_map.mp hmem
          exact hnew b hb (hkey ▸ List.mem_cons_self)
        · intro b hb hmem
          rcases List.mem_cons.mp hb with rfl | hb
          · exact hseen (List.contains_iff_mem.mpr hmem)
          · exact hnew b hb (List.mem_cons_of_mem _ hmem)
    · rintro ⟨⟨hmakes, hnodup⟩, hnew⟩
      cases hmakes with
      | @cons _ a _ as' hw hmakes =>
        obtain ⟨hfresh, hnodup⟩ := List.nodup_cons.mp hnodup
        have hrest : ofWords e (keyOf w :: seen) ws = .ok as' := by
          refine ih.mpr ⟨⟨hmakes, hnodup⟩, ?_⟩
          intro b hb hmem
          rw [hw.keyOf_eq] at hmem
          rcases List.mem_cons.mp hmem with hkey | hmem
          · exact hfresh (hkey ▸ List.mem_map_of_mem hb)
          · exact hnew b (List.mem_cons_of_mem _ hb) hmem
        rw [if_neg, ofWord_eq_ok_iff.mpr hw, ok_bind, hrest]
        · rfl
        · rw [hw.keyOf_eq]
          exact fun hmem => hnew a List.mem_cons_self (List.contains_iff_mem.mp hmem)

/-- **The words of a line are accepted if they make assignments with different keys.** -/
theorem ofWords_eq_ok_iff : ofWords e [] ws = .ok as ↔ Line e ws as := by
  rw [ofWords_eq_ok_iff_of_seen]
  exact and_iff_left fun _ _ hmem => List.not_mem_nil hmem

/-- A line with the same words in another order makes the same assignments. -/
theorem Line.perm (h : Line e ws as) (hperm : ws'.Perm ws) :
    ∃ bs, bs.Perm as ∧ Line e ws' bs := by
  obtain ⟨bs, hmakes, hbs⟩ := List.perm_comp_forall₂ hperm h.makes
  exact ⟨bs, hbs, hmakes, (hbs.map keyText).nodup_iff.mpr h.nodup⟩

/-- Every word of a line makes one of its assignments. -/
theorem Line.exists_of_mem (h : Line e ws as) (hw : w ∈ ws) : ∃ a ∈ as, Makes e w a :=
  exists_of_forall₂_left h.makes hw

/-- Every assignment of a line is made by one of its words. -/
theorem Line.exists_of_mem' (h : Line e ws as) (ha : a ∈ as) : ∃ w ∈ ws, Makes e w a :=
  exists_of_forall₂_right h.makes ha

/-! ## Attributes of a line -/

/-- A part of the attributes that no assignment touches stays as it is. -/
theorem get_foldl_assign {α : Type} {get : Attributes → α} :
    ∀ {as : List Assignment}, (∀ a ∈ as, ∀ x, get (x.assign a) = get x) →
      ∀ x, get (as.foldl Attributes.assign x) = get x
  | [], _, _ => rfl
  | a :: as, h, x => by
    rw [List.foldl_cons, get_foldl_assign fun b hb => h b (List.mem_cons_of_mem a hb)]
    exact h a List.mem_cons_self x

/-- A part of the attributes that only assignments of the key `key` touch. -/
structure Part (α : Type) where
  key : List Char
  get : Attributes → α
  frame : ∀ a : Assignment, a.keyText ≠ key → ∀ x : Attributes, get (x.assign a) = get x

variable {α : Type}

/-- Without an assignment of its key, a part keeps its value. -/
theorem Part.get_of_not_mem (P : Part α) (h : P.key ∉ as.map keyText) (x : Attributes) :
    P.get (as.foldl Attributes.assign x) = P.get x :=
  get_foldl_assign (fun a ha => P.frame a fun hkey => h (hkey ▸ List.mem_map_of_mem ha)) x

/-- **The assignment of its key decides a part, wherever it stands.** -/
theorem Part.get_of_mem (P : Part α) (hnodup : (as.map keyText).Nodup) (ha : a ∈ as)
    (hkey : a.keyText = P.key) (x : Attributes) :
    ∃ y : Attributes, P.get (as.foldl Attributes.assign x) = P.get (y.assign a) := by
  obtain ⟨before, after, rfl⟩ := List.append_of_mem ha
  rw [List.map_append, List.map_cons] at hnodup
  -- what comes before is overwritten, and what comes after has other keys
  have hafter : P.key ∉ after.map keyText :=
    hkey ▸ (List.nodup_cons.mp (List.nodup_append.mp hnodup).2.1).1
  refine ⟨before.foldl Attributes.assign x, ?_⟩
  rw [List.foldl_append, List.foldl_cons, P.get_of_not_mem hafter]

/-! ## Order -/

/-- Assignments of different keys touch different attributes. -/
theorem assign_comm (h : a.keyText ≠ b.keyText) (x : Attributes) :
    (x.assign a).assign b = (x.assign b).assign a := by
  -- the switches come first: two texts are not compared before their members are known
  cases a <;> (try cases ‹Switch›) <;> cases b <;> (try cases ‹Switch›) <;>
    first | rfl | exact absurd rfl h

/-- **The attributes of a line do not depend on the order of its words.** -/
theorem Line.foldl_assign_eq (h : Line e ws as) (hperm : as.Perm bs) (x : Attributes) :
    as.foldl Attributes.assign x = bs.foldl Attributes.assign x := by
  apply hperm.foldl_eq'
  intro a ha b hb x
  -- two assignments of the line with the same key are one
  by_cases hab : a = b
  · rw [hab]
  · apply assign_comm
    exact fun hkey => hab (List.inj_on_of_nodup_map h.nodup ha hb hkey)

end Assignment

end OpcodeForms
