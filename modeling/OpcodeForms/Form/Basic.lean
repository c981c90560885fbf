import OpcodeForms.Text.Case

/-!
# Opcode forms

A form is one line of the opcode table: an instruction with fixed operand kinds in a fixed
encoding. Here is what identifies it. How it is encoded is in its packed record.
-/

namespace OpcodeForms

/-- The identity of an opcode form. -/
structure Form where
  /-- The position of the form in its table. -/
  code : UInt16
  /-- The name, such as `Add_rm8_r8`. -/
  name : List Char
  /-- The mnemonic, in lower case. -/
  mnemonic : List Char
  /-- The number of operand slots in use. -/
  opCount : Nat
  /-- False for `INVALID` and for the data declarations at the end of the table. -/
  isInstruction : Bool
deriving DecidableEq

namespace Form

/-- The constants of the forms that use their opmask register as a completion mask: the gathers, the
scatters and their prefetches with an EVEX prefix. The list is kept by hand, nothing in the table
says it. -/
def completionMaskConstants : List String :=
  ["EVEX_VPGATHERDD_XMM_K1_VM32X", "EVEX_VPGATHERDD_YMM_K1_VM32Y", "EVEX_VPGATHERDD_ZMM_K1_VM32Z",
   "EVEX_VPGATHERDQ_XMM_K1_VM32X", "EVEX_VPGATHERDQ_YMM_K1_VM32X", "EVEX_VPGATHERDQ_ZMM_K1_VM32Y",
   "EVEX_VPGATHERQD_XMM_K1_VM64X", "EVEX_VPGATHERQD_XMM_K1_VM64Y", "EVEX_VPGATHERQD_YMM_K1_VM64Z",
   "EVEX_VPGATHERQQ_XMM_K1_VM64X", "EVEX_VPGATHERQQ_YMM_K1_VM64Y", "EVEX_VPGATHERQQ_ZMM_K1_VM64Z",
   "EVEX_VGATHERDPS_XMM_K1_VM32X", "EVEX_VGATHERDPS_YMM_K1_VM32Y", "EVEX_VGATHERDPS_ZMM_K1_VM32Z",
   "EVEX_VGATHERDPD_XMM_K1_VM32X", "EVEX_VGATHERDPD_YMM_K1_VM32X", "EVEX_VGATHERDPD_ZMM_K1_VM32Y",
   "EVEX_VGATHERQPS_XMM_K1_VM64X", "EVEX_VGATHERQPS_XMM_K1_VM64Y", "EVEX_VGATHERQPS_YMM_K1_VM64Z",
   "EVEX_VGATHERQPD_XMM_K1_VM64X", "EVEX_VGATHERQPD_YMM_K1_VM64Y", "EVEX_VGATHERQPD_ZMM_K1_VM64Z",
   "EVEX_VPSCATTERDD_VM32X_K1_XMM", "EVEX_VPSCATTERDD_VM32Y_K1_YMM",
   "EVEX_VPSCATTERDD_VM32Z_K1_ZMM", "EVEX_VPSCATTERDQ_VM32X_K1_XMM",
   "EVEX_VPSCATTERDQ_VM32X_K1_YMM", "EVEX_VPSCATTERDQ_VM32Y_K1_ZMM",
   "EVEX_VPSCATTERQD_VM64X_K1_XMM", "EVEX_VPSCATTERQD_VM64Y_K1_XMM",
   "EVEX_VPSCATTERQD_VM64Z_K1_YMM", "EVEX_VPSCATTERQQ_VM64X_K1_XMM",
   "EVEX_VPSCATTERQQ_VM64Y_K1_YMM", "EVEX_VPSCATTERQQ_VM64Z_K1_ZMM",
   "EVEX_VSCATTERDPS_VM32X_K1_XMM", "EVEX_VSCATTERDPS_VM32Y_K1_YMM",
   "EVEX_VSCATTERDPS_VM32Z_K1_ZMM", "EVEX_VSCATTERDPD_VM32X_K1_XMM",
   "EVEX_VSCATTERDPD_VM32X_K1_YMM", "EVEX_VSCATTERDPD_VM32Y_K1_ZMM",
   "EVEX_VSCATTERQPS_VM64X_K1_XMM", "EVEX_VSCATTERQPS_VM64Y_K1_XMM",
   "EVEX_VSCATTERQPS_VM64Z_K1_YMM", "EVEX_VSCATTERQPD_VM64X_K1_XMM",
   "EVEX_VSCATTERQPD_VM64Y_K1_YMM", "EVEX_VSCATTERQPD_VM64Z_K1_ZMM",
   "EVEX_VGATHERPF0DPS_VM32Z_K1", "EVEX_VGATHERPF0DPD_VM32Y_K1",
   "EVEX_VGATHERPF0QPS_VM64Z_K1", "EVEX_VGATHERPF0QPD_VM64Z_K1",
   "EVEX_VGATHERPF1DPS_VM32Z_K1", "EVEX_VGATHERPF1DPD_VM32Y_K1",
   "EVEX_VGATHERPF1QPS_VM64Z_K1", "EVEX_VGATHERPF1QPD_VM64Z_K1",
   "EVEX_VSCATTERPF0DPS_VM32Z_K1", "EVEX_VSCATTERPF0DPD_VM32Y_K1",
   "EVEX_VSCATTERPF0QPS_VM64Z_K1", "EVEX_VSCATTERPF0QPD_VM64Z_K1",
   "EVEX_VSCATTERPF1DPS_VM32Z_K1", "EVEX_VSCATTERPF1DPD_VM32Y_K1",
   "EVEX_VSCATTERPF1QPS_VM64Z_K1", "EVEX_VSCATTERPF1QPD_VM64Z_K1"]

/-- Whether the form uses its opmask register as a completion mask, and so cannot do with `k0`. -/
def usesCompletionMask (f : Form) : Bool :=
  completionMaskConstants.contains (String.ofList (Text.upper f.name))

end Form

end OpcodeForms
