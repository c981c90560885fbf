import OpcodeForms.Catalogue.Basic

/-!
# The built-in catalogue

The table of the forms that the program knows, in the format that `Table.read` reads.
-/

namespace OpcodeForms.Catalogue

/-- The source of the built-in table. -/
def builtinSource : String := "
  INVALID invalid legacy op=00

  # legacy
  Add_rm8_r8 add legacy op=00 ops=Eb,Gb allow=xacquire_xrelease_lock
  Add_rm16_r16 add legacy op=01 ops=Ew,Gw os=16 allow=xacquire_xrelease_lock
  Add_rm32_r32 add legacy op=01 ops=Ed,Gd os=32 allow=xacquire_xrelease_lock
  Add_rm64_r64 add legacy op=01 ops=Eq,Gq os=64 mode=64 allow=xacquire_xrelease_lock
  Add_r8_rm8 add legacy op=02 ops=Gb,Eb
  Add_rm8_imm8 add legacy op=80 group=0 ops=Eb,Ib allow=xacquire_xrelease_lock
  Add_rm32_imm32 add legacy op=81 group=0 ops=Ed,Id os=32 allow=xacquire_xrelease_lock
  Push_r32 push legacy op=50 ops=Zd os=32 mode=1632
  Push_r64 push legacy op=50 ops=Zq mode=64
  Pushad pushad legacy op=60 os=32 mode=1632
  Movsb_m8_m8 movsb legacy op=A4 allow=rep
  Cmpsb_m8_m8 cmpsb legacy op=A6 allow=rep_repne
  Stosb_m8_AL stosb legacy op=AA allow=rep
  Scasb_AL_m8 scasb legacy op=AE allow=rep_repne
  Retnq retn legacy op=C3 mode=64 allow=bnd
  Call_rm32 call legacy op=FF group=2 ops=Ed os=32 mode=1632 allow=bnd_notrack
  Call_rm64 call legacy op=FF group=2 ops=Eq mode=64 allow=bnd_notrack
  Jmp_rm64 jmp legacy op=FF group=4 ops=Eq mode=64 allow=bnd_notrack
  Mov_rm8_r8 mov legacy op=88 ops=Eb,Gb allow=xrelease
  Cmpxchg8b_m64 cmpxchg8b legacy op=C7 table=0F group=1 ops=M allow=xacquire_xrelease_lock
  Fninit fninit legacy op=DBE3
  Finit finit legacy op=DBE3 fwait
  Fnstenv_m14byte fnstenv legacy op=D9 group=6 ops=M
  Fstenv_m14byte fstenv legacy op=D9 group=6 ops=M fwait
  Vmrunw vmrun legacy op=01D8 table=0F as=16
  Vmrund vmrun legacy op=01D8 table=0F as=32
  Vmrunq vmrun legacy op=01D8 table=0F as=64 mode=64
  Addps_xmm_xmmm128 addps legacy op=58 table=0F np ops=VX,WX
  Addpd_xmm_xmmm128 addpd legacy op=58 table=0F mp=66 ops=VX,WX
  Addss_xmm_xmmm32 addss legacy op=58 table=0F mp=F3 ops=VX,WX
  Addsd_xmm_xmmm64 addsd legacy op=58 table=0F mp=F2 ops=VX,WX
  Pshufb_xmm_xmmm128 pshufb legacy op=00 table=0F38 mp=66 ops=VX,WX
  Roundps_xmm_xmmm128_imm8 roundps legacy op=08 table=0F3A mp=66 ops=VX,WX,Ib
  Popcnt_r32_rm32 popcnt legacy op=B8 table=0F mp=F3 os=32 ops=Gd,Ed
  Nopd nop legacy op=90 os=32
  Cpuid cpuid legacy op=A2 table=0F
  Lfence lfence legacy op=AEE8 table=0F np

  # VEX
  VEX_Vaddps_xmm_xmm_xmmm128 vaddps vex op=58 table=0F w=WIG ops=VX,HX,WX
  VEX_Vaddps_ymm_ymm_ymmm256 vaddps vex op=58 table=0F l=256 w=WIG ops=VY,HY,WY
  VEX_Vaddss_xmm_xmm_xmmm32 vaddss vex op=58 table=0F mp=F3 l=LIG w=WIG ops=VX,HX,WX
  VEX_Vpshufb_xmm_xmm_xmmm128 vpshufb vex op=00 table=0F38 mp=66 w=WIG ops=VX,HX,WX
  VEX_Vblendvps_xmm_xmm_xmmm128_xmm vblendvps vex op=4A table=0F3A mp=66 w=W0 ops=VX,HX,WX,Is4X
  VEX_Vblendvps_ymm_ymm_ymmm256_ymm vblendvps vex op=4A table=0F3A mp=66 l=256 w=W0 ops=VY,HY,WY,Is4Y
  VEX_Vpermil2ps_xmm_xmm_xmmm128_xmm_imm4 vpermil2ps vex op=48 table=0F3A mp=66 w=W0 ops=VX,HX,WX,Is4X,Ib
  VEX_Andn_r32_r32_rm32 andn vex op=F2 table=0F38 l=LZ w=W0 ops=Gd,Hd,Ed
  VEX_Blsr_r32_rm32 blsr vex op=F3 table=0F38 l=LZ w=W0 group=1 ops=Hd,Ed
  VEX_Vmovd_xmm_rm32 vmovd vex op=6E table=0F mp=66 w=WIG32 ops=VX,Ed
  VEX_Vmovq_xmm_rm64 vmovq vex op=6E table=0F mp=66 w=W1 mode=64 ops=VX,Eq
  VEX_Vzeroupper vzeroupper vex op=77 table=0F w=WIG
  VEX_Vzeroall vzeroall vex op=77 table=0F l=256 w=WIG
  VEX_Vpsrldq_xmm_xmm_imm8 vpsrldq vex op=73 table=0F mp=66 group=3 w=WIG ops=HX,WX,Ib
  VEX_Vbroadcastss_xmm_m32 vbroadcastss vex op=18 table=0F38 mp=66 w=W0 ops=VX,M
  VEX_Vldmxcsr_m32 vldmxcsr vex op=AE table=0F l=LZ w=WIG group=2 ops=M

  # EVEX gathers, scatters and gather/scatter prefetches, the opmask must not be k0
  EVEX_Vpgatherdd_xmm_k1_vm32x vpgatherdd evex op=90 table=0F38 mp=66 w=W0 ll=0 tuple=Tuple1_Scalar k1 ops=VX,VM32X
  EVEX_Vpgatherdd_ymm_k1_vm32y vpgatherdd evex op=90 table=0F38 mp=66 w=W0 ll=1 tuple=Tuple1_Scalar k1 ops=VY,VM32Y
  EVEX_Vpgatherdd_zmm_k1_vm32z vpgatherdd evex op=90 table=0F38 mp=66 w=W0 ll=2 tuple=Tuple1_Scalar k1 ops=VZ,VM32Z
  EVEX_Vpgatherdq_xmm_k1_vm32x vpgatherdq evex op=90 table=0F38 mp=66 w=W1 ll=0 tuple=Tuple1_Scalar k1 ops=VX,VM32X
  EVEX_Vpgatherdq_ymm_k1_vm32x vpgatherdq evex op=90 table=0F38 mp=66 w=W1 ll=1 tuple=Tuple1_Scalar k1 ops=VY,VM32X
  EVEX_Vpgatherdq_zmm_k1_vm32y vpgatherdq evex op=90 table=0F38 mp=66 w=W1 ll=2 tuple=Tuple1_Scalar k1 ops=VZ,VM32Y
  EVEX_Vpgatherqd_xmm_k1_vm64x vpgatherqd evex op=91 table=0F38 mp=66 w=W0 ll=0 tuple=Tuple1_Scalar k1 ops=VX,VM64X
  EVEX_Vpgatherqd_xmm_k1_vm64y vpgatherqd evex op=91 table=0F38 mp=66 w=W0 ll=1 tuple=Tuple1_Scalar k1 ops=VX,VM64Y
  EVEX_Vpgatherqd_ymm_k1_vm64z vpgatherqd evex op=91 table=0F38 mp=66 w=W0 ll=2 tuple=Tuple1_Scalar k1 ops=VY,VM64Z
  EVEX_Vpgatherqq_xmm_k1_vm64x vpgatherqq evex op=91 table=0F38 mp=66 w=W1 ll=0 tuple=Tuple1_Scalar k1 ops=VX,VM64X
  EVEX_Vpgatherqq_ymm_k1_vm64y vpgatherqq evex op=91 table=0F38 mp=66 w=W1 ll=1 tuple=Tuple1_Scalar k1 ops=VY,VM64Y
  EVEX_Vpgatherqq_zmm_k1_vm64z vpgatherqq evex op=91 table=0F38 mp=66 w=W1 ll=2 tuple=Tuple1_Scalar k1 ops=VZ,VM64Z
  EVEX_Vgatherdps_xmm_k1_vm32x vgatherdps evex op=92 table=0F38 mp=66 w=W0 ll=0 tuple=Tuple1_Scalar k1 ops=VX,VM32X
  EVEX_Vgatherdps_ymm_k1_vm32y vgatherdps evex op=92 table=0F38 mp=66 w=W0 ll=1 tuple=Tuple1_Scalar k1 ops=VY,VM32Y
  EVEX_Vgatherdps_zmm_k1_vm32z vgatherdps evex op=92 table=0F38 mp=66 w=W0 ll=2 tuple=Tuple1_Scalar k1 ops=VZ,VM32Z
  EVEX_Vgatherdpd_xmm_k1_vm32x vgatherdpd evex op=92 table=0F38 mp=66 w=W1 ll=0 tuple=Tuple1_Scalar k1 ops=VX,VM32X
  EVEX_Vgatherdpd_ymm_k1_vm32x vgatherdpd evex op=92 table=0F38 mp=66 w=W1 ll=1 tuple=Tuple1_Scalar k1 ops=VY,VM32X
  EVEX_Vgatherdpd_zmm_k1_vm32y vgatherdpd evex op=92 table=0F38 mp=66 w=W1 ll=2 tuple=Tuple1_Scalar k1 ops=VZ,VM32Y
  EVEX_Vgatherqps_xmm_k1_vm64x vgatherqps evex op=93 table=0F38 mp=66 w=W0 ll=0 tuple=Tuple1_Scalar k1 ops=VX,VM64X
  EVEX_Vgatherqps_xmm_k1_vm64y vgatherqps evex op=93 table=0F38 mp=66 w=W0 ll=1 tuple=Tuple1_Scalar k1 ops=VX,VM64Y
  EVEX_Vgatherqps_ymm_k1_vm64z vgatherqps evex op=93 table=0F38 mp=66 w=W0 ll=2 tuple=Tuple1_Scalar k1 ops=VY,VM64Z
  EVEX_Vgatherqpd_xmm_k1_vm64x vgatherqpd evex op=93 table=0F38 mp=66 w=W1 ll=0 tuple=Tuple1_Scalar k1 ops=VX,VM64X
  EVEX_Vgatherqpd_ymm_k1_vm64y vgatherqpd evex op=93 table=0F38 mp=66 w=W1 ll=1 tuple=Tuple1_Scalar k1 ops=VY,VM64Y
  EVEX_Vgatherqpd_zmm_k1_vm64z vgatherqpd evex op=93 table=0F38 mp=66 w=W1 ll=2 tuple=Tuple1_Scalar k1 ops=VZ,VM64Z

  EVEX_Vpscatterdd_vm32x_k1_xmm vpscatterdd evex op=A0 table=0F38 mp=66 w=W0 ll=0 tuple=Tuple1_Scalar k1 ops=VM32X,VX
  EVEX_Vpscatterdd_vm32y_k1_ymm vpscatterdd evex op=A0 table=0F38 mp=66 w=W0 ll=1 tuple=Tuple1_Scalar k1 ops=VM32Y,VY
  EVEX_Vpscatterdd_vm32z_k1_zmm vpscatterdd evex op=A0 table=0F38 mp=66 w=W0 ll=2 tuple=Tuple1_Scalar k1 ops=VM32Z,VZ
  EVEX_Vpscatterdq_vm32x_k1_xmm vpscatterdq evex op=A0 table=0F38 mp=66 w=W1 ll=0 tuple=Tuple1_Scalar k1 ops=VM32X,VX
  EVEX_Vpscatterdq_vm32x_k1_ymm vpscatterdq evex op=A0 table=0F38 mp=66 w=W1 ll=1 tuple=Tuple1_Scalar k1 ops=VM32X,VY
  EVEX_Vpscatterdq_vm32y_k1_zmm vpscatterdq evex op=A0 table=0F38 mp=66 w=W1 ll=2 tuple=Tuple1_Scalar k1 ops=VM32Y,VZ
  EVEX_Vpscatterqd_vm64x_k1_xmm vpscatterqd evex op=A1 table=0F38 mp=66 w=W0 ll=0 tuple=Tuple1_Scalar k1 ops=VM64X,VX
  EVEX_Vpscatterqd_vm64y_k1_xmm vpscatterqd evex op=A1 table=0F38 mp=66 w=W0 ll=1 tuple=Tuple1_Scalar k1 ops=VM64Y,VX
  EVEX_Vpscatterqd_vm64z_k1_ymm vpscatterqd evex op=A1 table=0F38 mp=66 w=W0 ll=2 tuple=Tuple1_Scalar k1 ops=VM64Z,VY
  EVEX_Vpscatterqq_vm64x_k1_xmm vpscatterqq evex op=A1 table=0F38 mp=66 w=W1 ll=0 tuple=Tuple1_Scalar k1 ops=VM64X,VX
  EVEX_Vpscatterqq_vm64y_k1_ymm vpscatterqq evex op=A1 table=0F38 mp=66 w=W1 ll=1 tuple=Tuple1_Scalar k1 ops=VM64Y,VY
  EVEX_Vpscatterqq_vm64z_k1_zmm vpscatterqq evex op=A1 table=0F38 mp=66 w=W1 ll=2 tuple=Tuple1_Scalar k1 ops=VM64Z,VZ
  EVEX_Vscatterdps_vm32x_k1_xmm vscatterdps evex op=A2 table=0F38 mp=66 w=W0 ll=0 tuple=Tuple1_Scalar k1 ops=VM32X,VX
  EVEX_Vscatterdps_vm32y_k1_ymm vscatterdps evex op=A2 table=0F38 mp=66 w=W0 ll=1 tuple=Tuple1_Scalar k1 ops=VM32Y,VY
  EVEX_Vscatterdps_vm32z_k1_zmm vscatterdps evex op=A2 table=0F38 mp=66 w=W0 ll=2 tuple=Tuple1_Scalar k1 ops=VM32Z,VZ
  EVEX_Vscatterdpd_vm32x_k1_xmm vscatterdpd evex op=A2 table=0F38 mp=66 w=W1 ll=0 tuple=Tuple1_Scalar k1 ops=VM32X,VX
  EVEX_Vscatterdpd_vm32x_k1_ymm vscatterdpd evex op=A2 table=0F38 mp=66 w=W1 ll=1 tuple=Tuple1_Scalar k1 ops=VM32X,VY
  EVEX_Vscatterdpd_vm32y_k1_zmm vscatterdpd evex op=A2 table=0F38 mp=66 w=W1 ll=2 tuple=Tuple1_Scalar k1 ops=VM32Y,VZ
  EVEX_Vscatterqps_vm64x_k1_xmm vscatterqps evex op=A3 table=0F38 mp=66 w=W0 ll=0 tuple=Tuple1_Scalar k1 ops=VM64X,VX
  EVEX_Vscatterqps_vm64y_k1_xmm vscatterqps evex op=A3 table=0F38 mp=66 w=W0 ll=1 tuple=Tuple1_Scalar k1 ops=VM64Y,VX
  EVEX_Vscatterqps_vm64z_k1_ymm vscatterqps evex op=A3 table=0F38 mp=66 w=W0 ll=2 tuple=Tuple1_Scalar k1 ops=VM64Z,VY
  EVEX_Vscatterqpd_vm64x_k1_xmm vscatterqpd evex op=A3 table=0F38 mp=66 w=W1 ll=0 tuple=Tuple1_Scalar k1 ops=VM64X,VX
  EVEX_Vscatterqpd_vm64y_k1_ymm vscatterqpd evex op=A3 table=0F38 mp=66 w=W1 ll=1 tuple=Tuple1_Scalar k1 ops=VM64Y,VY
  EVEX_Vscatterqpd_vm64z_k1_zmm vscatterqpd evex op=A3 table=0F38 mp=66 w=W1 ll=2 tuple=Tuple1_Scalar k1 ops=VM64Z,VZ

  EVEX_Vgatherpf0dps_vm32z_k1 vgatherpf0dps evex op=C6 table=0F38 mp=66 group=1 w=W0 ll=2 tuple=Tuple1_Scalar k1 ops=VM32Z
  EVEX_Vgatherpf0dpd_vm32y_k1 vgatherpf0dpd evex op=C6 table=0F38 mp=66 group=1 w=W1 ll=2 tuple=Tuple1_Scalar k1 ops=VM32Y
  EVEX_Vgatherpf0qps_vm64z_k1 vgatherpf0qps evex op=C7 table=0F38 mp=66 group=1 w=W0 ll=2 tuple=Tuple1_Scalar k1 ops=VM64Z
  EVEX_Vgatherpf0qpd_vm64z_k1 vgatherpf0qpd evex op=C7 table=0F38 mp=66 group=1 w=W1 ll=2 tuple=Tuple1_Scalar k1 ops=VM64Z
  EVEX_Vgatherpf1dps_vm32z_k1 vgatherpf1dps evex op=C6 table=0F38 mp=66 group=2 w=W0 ll=2 tuple=Tuple1_Scalar k1 ops=VM32Z
  EVEX_Vgatherpf1dpd_vm32y_k1 vgatherpf1dpd evex op=C6 table=0F38 mp=66 group=2 w=W1 ll=2 tuple=Tuple1_Scalar k1 ops=VM32Y
  EVEX_Vgatherpf1qps_vm64z_k1 vgatherpf1qps evex op=C7 table=0F38 mp=66 group=2 w=W0 ll=2 tuple=Tuple1_Scalar k1 ops=VM64Z
  EVEX_Vgatherpf1qpd_vm64z_k1 vgatherpf1qpd evex op=C7 table=0F38 mp=66 group=2 w=W1 ll=2 tuple=Tuple1_Scalar k1 ops=VM64Z
  EVEX_Vscatterpf0dps_vm32z_k1 vscatterpf0dps evex op=C6 table=0F38 mp=66 group=5 w=W0 ll=2 tuple=Tuple1_Scalar k1 ops=VM32Z
  EVEX_Vscatterpf0dpd_vm32y_k1 vscatterpf0dpd evex op=C6 table=0F38 mp=66 group=5 w=W1 ll=2 tuple=Tuple1_Scalar k1 ops=VM32Y
  EVEX_Vscatterpf0qps_vm64z_k1 vscatterpf0qps evex op=C7 table=0F38 mp=66 group=5 w=W0 ll=2 tuple=Tuple1_Scalar k1 ops=VM64Z
  EVEX_Vscatterpf0qpd_vm64z_k1 vscatterpf0qpd evex op=C7 table=0F38 mp=66 group=5 w=W1 ll=2 tuple=Tuple1_Scalar k1 ops=VM64Z
  EVEX_Vscatterpf1dps_vm32z_k1 vscatterpf1dps evex op=C6 table=0F38 mp=66 group=6 w=W0 ll=2 tuple=Tuple1_Scalar k1 ops=VM32Z
  EVEX_Vscatterpf1dpd_vm32y_k1 vscatterpf1dpd evex op=C6 table=0F38 mp=66 group=6 w=W1 ll=2 tuple=Tuple1_Scalar k1 ops=VM32Y
  EVEX_Vscatterpf1qps_vm64z_k1 vscatterpf1qps evex op=C7 table=0F38 mp=66 group=6 w=W0 ll=2 tuple=Tuple1_Scalar k1 ops=VM64Z
  EVEX_Vscatterpf1qpd_vm64z_k1 vscatterpf1qpd evex op=C7 table=0F38 mp=66 group=6 w=W1 ll=2 tuple=Tuple1_Scalar k1 ops=VM64Z

  # EVEX
  EVEX_Vaddps_xmm_k1z_xmm_xmmm128b32 vaddps evex op=58 table=0F w=W0 ll=0 tuple=Full_128 b k1 z ops=VX,HX,WX
  EVEX_Vaddps_ymm_k1z_ymm_ymmm256b32 vaddps evex op=58 table=0F w=W0 ll=1 tuple=Full_256 b k1 z ops=VY,HY,WY
  EVEX_Vaddps_zmm_k1z_zmm_zmmm512b32_er vaddps evex op=58 table=0F w=W0 ll=2 tuple=Full_512 b er k1 z ops=VZ,HZ,WZ
  EVEX_Vaddpd_zmm_k1z_zmm_zmmm512b64_er vaddpd evex op=58 table=0F mp=66 w=W1 ll=2 tuple=Full_512 b er k1 z ops=VZ,HZ,WZ
  EVEX_Vaddss_xmm_k1z_xmm_xmmm32_er vaddss evex op=58 table=0F mp=F3 w=W0 lig tuple=Tuple1_Scalar er k1 z ops=VX,HX,WX
  EVEX_Vmaxps_zmm_k1z_zmm_zmmm512b32_sae vmaxps evex op=5F table=0F w=W0 ll=2 tuple=Full_512 b sae k1 z ops=VZ,HZ,WZ
  EVEX_Vmovaps_zmm_k1z_zmmm512 vmovaps evex op=28 table=0F w=W0 ll=2 tuple=Full_Mem_512 k1 z ops=VZ,WZ
  EVEX_Vpaddd_zmm_k1z_zmm_zmmm512b32 vpaddd evex op=FE table=0F mp=66 w=W0 ll=2 tuple=Full_512 b k1 z ops=VZ,HZ,WZ

  # XOP
  XOP_Vpcmov_xmm_xmm_xmmm128_xmm vpcmov xop op=A2 table=X8 w=W0 ops=VX,HX,WX,Is4X
  XOP_Vpcmov_ymm_ymm_ymmm256_ymm vpcmov xop op=A2 table=X8 l=256 w=W0 ops=VY,HY,WY,Is4Y
  XOP_Vprotb_xmm_xmmm128_imm8 vprotb xop op=C0 table=X8 w=W0 ops=VX,WX,Ib
  XOP_Vfrczps_xmm_xmmm128 vfrczps xop op=80 table=X9 w=W0 ops=VX,WX
  XOP_Blcfill_r32_rm32 blcfill xop op=01 table=X9 group=1 l=L0 w=W0 ops=Hd,Ed
  XOP_Blcfill_r64_rm64 blcfill xop op=01 table=X9 group=1 l=L0 w=W1 mode=64 ops=Hq,Eq
  XOP_Llwpcb_r32 llwpcb xop op=12 table=X9 group=0 l=L0 w=W0 ops=Ed

  # 3DNow!
  D3NOW_Pi2fd_mm_mmm64 pi2fd 3dnow op=0D
  D3NOW_Pfsub_mm_mmm64 pfsub 3dnow op=9A
  D3NOW_Pfadd_mm_mmm64 pfadd 3dnow op=9E
  D3NOW_Pavgusb_mm_mmm64 pavgusb 3dnow op=BF

  # data declarations
  DeclareByte db legacy op=00
  DeclareWord dw legacy op=00
  DeclareDword dd legacy op=00
  DeclareQword dq legacy op=00
"

/-- The name of the built-in table. -/
def builtinPath : String := "opcodes.table"

/-- The catalogue of the built-in table, or what is wrong with the table. -/
def builtin : Except TableError Catalogue :=
  (Table.read builtinSource.toList).map ofRecords

end OpcodeForms.Catalogue
