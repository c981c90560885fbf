import OpcodeForms.Proofs.Building

/-!
# The order of the words of a table line

After the encoding, the words of a table line can stand in any order. The record under construction
is not quite the same then: it remembers its keys in the order in which they came. But that is all
that differs (`Builder.tokens_perm`), and no step looks at the order of the keys. So a line is
accepted if it is accepted with its words in another order, and with the same record
(`Builder.read_ok_iff_of_perm`).

For lines that are rejected the order does matter: the first fault is the one that is reported.
-/

namespace OpcodeForms.Builder

open Checked (defined lift_some exists_of_bind_eq_ok)

variable {e : Encoding} {a : Attributes} {b c : Builder} {r : Record}
  {name mnemonic encoding line line' : List Char} {ws ws' : List (List Char)}

/-- The records under construction differ at most in the order in which their keys came. -/
structure Alike (b c : Builder) : Prop where
  fields : { b with keys := [] } = { c with keys := [] }
  keys : b.keys.Perm c.keys

/-- **Words in another order are taken too, and lead to a record under construction that differs
in the order of its keys alone.** -/
theorem tokens_perm (h : ws.foldlM token (of e {} []) = defined (.ok b)) (hperm : ws'.Perm ws) :
    ∃ c, ws'.foldlM token (of e {} []) = defined (.ok c) ∧ c.Alike b := by
  rw [tokens_eq fun _ => rfl] at h
  cases has : Assignment.ofWords e [] ws with
  | error err =>
    rw [has] at h
    cases h
  | ok as =>
    rw [has] at h
    cases h
    have hline := Assignment.ofWords_eq_ok_iff.mp has
    obtain ⟨bs, hbs, hline'⟩ := hline.perm hperm
    refine ⟨of e (bs.foldl Attributes.assign {}) ((ws'.map Assignment.keyOf).reverse ++ []),
      ?_, ?_, ?_⟩
    · rw [tokens_eq fun _ => rfl, Assignment.ofWords_eq_ok_iff.mpr hline']
      rfl
    · rw [← hline.foldl_assign_eq hbs.symm {}]
      rfl
    · change ((ws'.map Assignment.keyOf).reverse ++ []).Perm
        ((ws.map Assignment.keyOf).reverse ++ [])
      rw [List.append_nil, List.append_nil]
      exact (List.reverse_perm _).trans
        ((hperm.map Assignment.keyOf).trans (List.reverse_perm _).symm)

/-- The keys have no part in the record that comes of it. -/
theorem Alike.finish_eq (h : b.Alike c) : b.finish name mnemonic = c.finish name mnemonic := by
  have hkeys : ∀ b : Builder, b.finish name mnemonic
      = { b with keys := [] }.finish name mnemonic := fun _ => rfl
  rw [hkeys b, h.fields, ← hkeys c]

/-- A record that is built from words is built from them in any order. -/
theorem build_perm (h : build name mnemonic e ws = defined (.ok r)) (hperm : ws'.Perm ws) :
    build name mnemonic e ws' = defined (.ok r) := by
  unfold build at h ⊢
  rw [new_eq, lift_some, pure_bind] at h ⊢
  obtain ⟨b, hb, hfinish⟩ := exists_of_bind_eq_ok h
  obtain ⟨c, hc, halike⟩ := tokens_perm hb hperm
  rw [hc]
  exact halike.finish_eq.trans hfinish

/-- What becomes of a line with a name, a mnemonic and an encoding. -/
theorem read_of_words (h : Text.words line = name :: mnemonic :: encoding :: ws) :
    read line = if !Record.isName name then throw (.invalidName name)
      else
        match (Enumeration.ofName? encoding : Option Encoding) with
        | none => throw (.invalidValue "encoding".toList encoding)
        | some e => build name mnemonic e ws := by
  rewrite [read, h]
  rfl

/-- A line that is read is read with its words in another order. -/
theorem read_perm (hline : Text.words line = name :: mnemonic :: encoding :: ws)
    (hline' : Text.words line' = name :: mnemonic :: encoding :: ws') (hperm : ws'.Perm ws)
    (h : read line = defined (.ok r)) : read line' = defined (.ok r) := by
  rw [read_of_words hline] at h
  rw [read_of_words hline']
  cases hname : Record.isName name with
  | false =>
    rw [hname] at h
    cases h
  | true =>
    simp only [hname, Bool.not_true, Bool.false_eq_true, if_false] at h ⊢
    cases he : (Enumeration.ofName? encoding : Option Encoding) with
    | none =>
      rw [he] at h
      cases h
    | some e =>
      rw [he] at h
      exact build_perm h hperm

/-- **The words after the encoding can stand in any order**, with any blanks between them: a record
is built from one line exactly if it is built from the other, and it is what is read. -/
theorem read_ok_iff_of_perm (hline : Text.words line = name :: mnemonic :: encoding :: ws)
    (hline' : Text.words line' = name :: mnemonic :: encoding :: ws') (hperm : ws'.Perm ws)
    (r : Record) :
    (read line = defined (.ok r) ↔ read line' = defined (.ok r)) ∧
      (Record.read line = .ok r ↔ Record.read line' = .ok r) := by
  have hbuilt : read line = defined (.ok r) ↔ read line' = defined (.ok r) :=
    ⟨read_perm hline hline' hperm, read_perm hline' hline hperm.symm⟩
  have hread : ∀ line, read line = defined (.ok r) ↔ Record.read line = .ok r := by
    intro line
    rw [read_eq]
    exact ⟨fun h => Option.some.inj h, fun h => h ▸ rfl⟩
  exact ⟨hbuilt, by rw [← hread line, hbuilt, hread line']⟩

/-- A line whose words write several fields of the same word. -/
def shiftLine : List Char :=
  "Vpsrlw vpsrlw vex op=71 group=2 mp=66 ops=HX,WX,Ib".toList

/-- The line with its words in another order and with other blanks. -/
def mixedShiftLine : List Char :=
  " Vpsrlw\tvpsrlw vex  ops=HX,WX,Ib mp=66\top=71 group=2".toList

/-- The record of both. -/
def shiftRecord : Record where
  name := "Vpsrlw".toList
  mnemonic := "vpsrlw".toList
  encoding := .vex
  opCount := 3
  packed := { word1 := 0x710001, word2 := 0xc51, word3 := 0x8e6 }

theorem read_ok_iff_of_perm_shift :
    Record.read shiftLine = .ok shiftRecord ∧ Record.read mixedShiftLine = .ok shiftRecord ∧
      read mixedShiftLine = defined (.ok shiftRecord) := by
  have hread : Record.read shiftLine = .ok shiftRecord := by rfl
  have hwords : Text.words shiftLine = "Vpsrlw".toList :: "vpsrlw".toList :: "vex".toList ::
      ["op=71".toList, "group=2".toList, "mp=66".toList, "ops=HX,WX,Ib".toList] := by rfl
  have hmixed : Text.words mixedShiftLine = "Vpsrlw".toList :: "vpsrlw".toList :: "vex".toList ::
      ["ops=HX,WX,Ib".toList, "mp=66".toList, "op=71".toList, "group=2".toList] := by rfl
  have h := read_ok_iff_of_perm hwords hmixed (by decide) shiftRecord
  have hreadMixed : Record.read mixedShiftLine = .ok shiftRecord := h.2.mp hread
  exact ⟨hread, hreadMixed, (read_eq mixedShiftLine).trans (congrArg defined hreadMixed)⟩

/-- Of two faults the first one is reported, so the order of the words tells in an error. -/
example :
    Record.read "Nop nop legacy x y".toList = .error (.unexpectedSwitch .legacy ['x']) ∧
      Record.read "Nop nop legacy y x".toList = .error (.unexpectedSwitch .legacy ['y']) := by
  decide

end OpcodeForms.Builder
