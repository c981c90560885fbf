/-!
# Enumerations with names and raw values

A closed enumeration whose members have a canonical name and a raw value. The raw value of a
member is its position in `all`: tables are written with raw values and read back by them, so
the order of the members is part of the format.
-/

namespace OpcodeForms

/-- A finite type whose members are listed in order and have distinct names. -/
class Enumeration (α : Type) [DecidableEq α] where
  /-- The members, in the order of their raw values. -/
  all : List α
  /-- The canonical name. -/
  name : α → String
  /-- The list is complete. -/
  mem_all : ∀ a, a ∈ all
  /-- No two members share a name. -/
  nodup_names : (all.map name).Nodup

namespace Enumeration

variable {α : Type} [DecidableEq α] [Enumeration α]

/-- The number of members. -/
def count (α : Type) [DecidableEq α] [Enumeration α] : Nat :=
  (all : List α).length

/-- The raw value: the position in `all`. -/
def raw (a : α) : Nat :=
  all.idxOf a

/-- The member with the raw value `n`. -/
def ofRaw? (n : Nat) : Option α :=
  (all : List α)[n]?

/-- The member called `s`. -/
def ofName? (s : List Char) : Option α :=
  all.find? fun a => (name a).toList == s

/-- The name as a list of characters. -/
def text (a : α) : List Char :=
  (name a).toList

/-- A member is found by its raw value. -/
theorem ofRaw?_raw (a : α) : ofRaw? (raw a) = some a := by
  unfold ofRaw? raw
  rw [List.getElem?_eq_getElem (List.idxOf_lt_length_of_mem (mem_all a)), List.getElem_idxOf]

/-- A member is known by its name. -/
theorem name_inj {a b : α} (h : name a = name b) : a = b := by
  have key : ∀ l : List α, (l.map name).Nodup → a ∈ l → b ∈ l → a = b := by
    intro l
    induction l with
    | nil => intro _ ha; cases ha
    | cons c l ih =>
      intro hl ha hb
      obtain ⟨hc, hl⟩ := List.nodup_cons.mp hl
      rcases List.mem_cons.mp ha with rfl | ha'
      · rcases List.mem_cons.mp hb with rfl | hb'
        · rfl
        · exact absurd (h ▸ List.mem_map_of_mem hb') hc
      · rcases List.mem_cons.mp hb with rfl | hb'
        · exact absurd (h ▸ List.mem_map_of_mem ha') hc
        · exact ih hl ha' hb'
  exact key all nodup_names (mem_all a) (mem_all b)

/-- A member is found by its name. -/
theorem ofName?_text (a : α) : ofName? (text a) = some a := by
  unfold ofName?
  cases h : (all : List α).find? fun b => (name b).toList == text a with
  | none => exact absurd (List.find?_eq_none.mp h a (mem_all a)) (by simp [text])
  | some b =>
    have hb : name b = name a := String.toList_inj.mp (by simpa [text] using List.find?_some h)
    rw [name_inj hb]

end Enumeration

end OpcodeForms
