import Kernova.Asm.Image
import Kernova.X86.Block

/-!
# The copy loops of the marshalling engine

`simd_pack_256bit`, `simd_pack_512bit`, `simd_unpack_data` and
`simd_secure_memcpy` copy from R13 to R12 with RBX counting the bytes done.
`Copying t₀ k t` is the invariant they share; `copy_loop` runs a loop of vector
moves until fewer bytes than a chunk are left, and `CopyUpto.movsb` accounts for
the bytes behind it.
-/

namespace Kernova

open X86 Reg Op

/-- The registers a copy uses besides its parameters. -/
abbrev copyScratch : List Reg := [.rax, .rbx, .rcx, .rsi, .rdi]

/-- `k` bytes are copied: the state `t` of a copy that began at `t₀`. -/
structure Copying (t₀ : State) (k : Nat) (t : State) : Prop where
  regs : ∀ r, r ∉ copyScratch → t.regs r = t₀.regs r
  rbx : t.regs .rbx = BitVec.ofNat 64 k
  le : k ≤ (t₀.regs .r14).toNat
  mem : CopyUpto t₀.mem (t₀.regs .r12) (t₀.regs .r13) (t₀.regs .r14).toNat k t.mem

namespace Copying

variable {t₀ t u : State} {k w : Nat}

theorem start (h : t.regs .rbx = 0) (hregs : ∀ r, r ∉ copyScratch → t.regs r = t₀.regs r)
    (hmem : t.mem = t₀.mem) : Copying t₀ 0 t where
  regs := hregs
  rbx := h
  le := Nat.zero_le _
  mem := by rw [hmem]; exact CopyUpto.start

theorem r12 (h : Copying t₀ k t) : t.regs .r12 = t₀.regs .r12 := h.regs _ (by decide)
theorem r13 (h : Copying t₀ k t) : t.regs .r13 = t₀.regs .r13 := h.regs _ (by decide)
theorem r14 (h : Copying t₀ k t) : t.regs .r14 = t₀.regs .r14 := h.regs _ (by decide)

/-- Registers outside the copy do not matter. -/
theorem same (h : Copying t₀ k t) (hregs : ∀ r, r ∉ copyScratch → u.regs r = t.regs r)
    (hrbx : u.regs .rbx = t.regs .rbx) (hmem : u.mem = t.mem) : Copying t₀ k u where
  regs := fun r hr => (hregs r hr).trans (h.regs r hr)
  rbx := hrbx.trans h.rbx
  le := h.le
  mem := by rw [hmem]; exact h.mem

/-- How many bytes are left, as the code computes it. -/
theorem left (h : Copying t₀ k t) :
    (t₀.regs .r14 - BitVec.ofNat 64 k).toNat = (t₀.regs .r14).toNat - k :=
  toNat_sub_ofNat h.le

/-- A vector move of `w` more bytes. -/
theorem chunk (h : Copying t₀ k t) (hw : w ≤ 64) (hle : k + w ≤ (t₀.regs .r14).toNat)
    (hregs : ∀ r, r ∉ copyScratch → u.regs r = t.regs r)
    (hrbx : u.regs .rbx = BitVec.ofNat 64 k + BitVec.ofNat 64 w)
    (hmem : u.mem = t.mem.storeVec (t₀.regs .r12 + BitVec.ofNat 64 k) w
      (t.mem.loadVec (t₀.regs .r13 + BitVec.ofNat 64 k) w)) : Copying t₀ (k + w) u where
  regs := fun r hr => (hregs r hr).trans (h.regs r hr)
  rbx := by rw [hrbx, BitVec.ofNat_add]
  le := hle
  mem := by rw [hmem]; exact h.mem.vec hle (Nat.le_of_lt (BitVec.isLt _)) hw

end Copying

/-- All bytes are copied. -/
structure CopyEnd (t₀ t : State) : Prop where
  regs : ∀ r, r ∉ copyScratch → t.regs r = t₀.regs r
  mem : CopyUpto t₀.mem (t₀.regs .r12) (t₀.regs .r13) (t₀.regs .r14).toNat
    (t₀.regs .r14).toNat t.mem

namespace Copying

variable {t₀ t u : State} {k : Nat}

/-- Nothing was left. -/
theorem finish (h : Copying t₀ k t) (h0 : t₀.regs .r14 - BitVec.ofNat 64 k = 0) :
    CopyEnd t₀ t where
  regs := h.regs
  mem := by
    have hleft := h.left
    rw [h0] at hleft
    have hk : k = (t₀.regs .r14).toNat := by
      have := h.le
      simp only [BitVec.ofNat_eq_ofNat, BitVec.toNat_ofNat] at hleft
      omega
    have hmem := h.mem
    rwa [hk] at hmem

/-- The rest was copied byte by byte. -/
theorem finish_movsb (h : Copying t₀ k t) (hregs : ∀ r, r ∉ copyScratch → u.regs r = t.regs r)
    (hmem : u.mem = t.mem.movsb (t₀.regs .r12 + BitVec.ofNat 64 k)
      (t₀.regs .r13 + BitVec.ofNat 64 k) (t₀.regs .r14 - BitVec.ofNat 64 k).toNat) :
    CopyEnd t₀ u where
  regs := fun r hr => (hregs r hr).trans (h.regs r hr)
  mem := by
    rw [hmem, h.left]
    exact h.mem.movsb h.le (Nat.le_of_lt (BitVec.isLt _))

end Copying

/-- What the caller of a copy can rely on: if the source neither overlaps the
destination nor lies in the `d` bytes of stack the copy uses, it has arrived. -/
def Moves (d : Nat) (s : State) (dst src : Word) (n : Nat) (m : Mem) : Prop :=
  Apart dst n src n → Clear (InRange · src n) (s.regs .rsp) d → Copied s.mem m dst src n

/-- The same of a source that the destination may overlap, as long as the copy
can be made upward. -/
def Shifts (d : Nat) (s : State) (dst src : Word) (n : Nat) (m : Mem) : Prop :=
  Ahead dst src n → Clear (InRange · src n) (s.regs .rsp) d → Copied s.mem m dst src n

theorem Shifts.moves {d n : Nat} {s : State} {dst src : Word} {m : Mem}
    (h : Shifts d s dst src n m) (hn : n ≤ 2 ^ 64) : Moves d s dst src n m :=
  fun hap => h (hap.ahead hn)

theorem CopyEnd.shifts {d : Nat} {s t₀ t : State} {ws : List Word} (h : CopyEnd t₀ t)
    (hf : Framed Nowhere d s ws t₀) :
    Shifts d s (t₀.regs .r12) (t₀.regs .r13) (t₀.regs .r14).toNat t.mem := by
  intro hah hC i hi
  have hlt := (t₀.regs .r14).isLt
  rw [h.mem.copied hah i hi]
  refine hf.mem _ (fun hr => hC _ ?_ (hr.mono (by omega))) id
  exact inRange_add_ofNat _ hi (by omega)

theorem CopyEnd.moves {d : Nat} {s t₀ t : State} {ws : List Word} (h : CopyEnd t₀ t)
    (hf : Framed Nowhere d s ws t₀) :
    Moves d s (t₀.regs .r12) (t₀.regs .r13) (t₀.regs .r14).toNat t.mem :=
  (h.shifts hf).moves (Nat.le_of_lt (BitVec.isLt _))

/-- What a callee's copy means to its caller. -/
theorem Moves.outer {d d' n : Nat} {s t : State} {ws : List Word} {dst src : Word} {m : Mem}
    (h : Moves d' t dst src n m) (hf : Framed Nowhere d s ws t)
    (hlen : 8 * ws.length + d' ≤ d) (hd : d < 2 ^ 64) (hn : n ≤ 2 ^ 64) :
    Moves d s dst src n m := by
  intro hap hC i hi
  have hC' : Clear (InRange · src n) (t.regs .rsp) d' := by
    rw [hf.rsp]
    exact hC.deeper hlen hd
  rw [h hap hC' i hi]
  exact hf.mem _ (fun hr => hC _ (inRange_add_ofNat _ hi (by omega)) (hr.mono (by omega))) id

/-- A copy into `W` keeps the frame. -/
theorem CopyEnd.framed {d : Nat} {s t₀ t u : State} {ws : List Word} {W : Word → Prop}
    (h : CopyEnd t₀ t) (hf : Framed Nowhere d s ws t₀)
    (hW : ∀ a, InRange a (t₀.regs .r12) (t₀.regs .r14).toNat → W a)
    (hC : Clear W (s.regs .rsp) d) (hlen : 8 * ws.length ≤ d) (hd : d + 8 < 2 ^ 64)
    (hrsp : u.regs .rsp = t.regs .rsp) (hmem : u.mem = t.mem) : Framed W d s ws u := by
  refine (hf.weaken fun a ha => ha.elim).upd hC hlen hd
    (hrsp.trans (h.regs .rsp (by decide))) fun a ha => ?_
  rw [hmem]
  exact h.mem.frame a fun hr => ha (hW a hr)

theorem Copying.framed {d k : Nat} {s t₀ t u : State} {ws : List Word} {W : Word → Prop}
    (h : Copying t₀ k t) (hf : Framed Nowhere d s ws t₀)
    (hW : ∀ a, InRange a (t₀.regs .r12) (t₀.regs .r14).toNat → W a)
    (hC : Clear W (s.regs .rsp) d) (hlen : 8 * ws.length ≤ d) (hd : d + 8 < 2 ^ 64)
    (hrsp : u.regs .rsp = t.regs .rsp) (hmem : u.mem = t.mem) : Framed W d s ws u := by
  refine (hf.weaken fun a ha => ha.elim).upd hC hlen hd
    (hrsp.trans (h.regs .rsp (by decide))) fun a ha => ?_
  rw [hmem]
  exact h.mem.frame a fun hr => ha (hW a (hr.mono h.le))

/-- A copy of `n` bytes from `src` to `dst` has returned `v`, having used `d`
bytes of stack and changed the registers `X`. -/
structure CopyReturns (I : Image) (X : List Reg) (d : Nat) (s : State) (dst src : Word) (n : Nat)
    (v : Word) (c : Config Label) : Prop where
  ret : Returns I.machine X (InRange · dst n) d s c
  rax : c.st.regs .rax = v
  moves : Moves d s dst src n c.st.mem

/-- The same of a copy whose source the destination may overlap. -/
structure ShiftReturns (I : Image) (X : List Reg) (d : Nat) (s : State) (dst src : Word) (n : Nat)
    (v : Word) (c : Config Label) : Prop where
  ret : Returns I.machine X (InRange · dst n) d s c
  rax : c.st.regs .rax = v
  shifts : Shifts d s dst src n c.st.mem

theorem ShiftReturns.copy {I : Image} {X : List Reg} {d n : Nat} {s : State} {dst src v : Word}
    {c : Config Label} (h : ShiftReturns I X d s dst src n v c) (hn : n ≤ 2 ^ 64) :
    CopyReturns I X d s dst src n v c :=
  ⟨h.ret, h.rax, h.shifts.moves hn⟩

variable {I : Image} {Q : Config Label → Prop} {g : List (Ctl Label)} {t₀ : State}

/-- The loop leaves with fewer than `w` bytes to go (or with a count that, read
as a signed number, is negative). -/
theorem copy_loop {w : Nat} (hw : 0 < w ∧ w ≤ 64) {b remaining : Label}
    (htext : I.machine.text b = copyLoop w b remaining)
    (hexit : ∀ k t, Copying t₀ k t → w ∣ k →
      ((t₀.regs .r14).toNat - k < w ∨ 2 ^ 63 ≤ (t₀.regs .r14).toNat - k) →
      Ev I.machine Q ⟨Machine.entry remaining, t, g⟩)
    {k : Nat} {t : State} (h : Copying t₀ k t) (hdvd : w ∣ k) :
    Ev I.machine Q ⟨Machine.entry b, t, g⟩ := by
  induction hm : (t₀.regs .r14).toNat - k using Nat.strong_induction_on generalizing k t with
  | _ m ih =>
    have hleft := h.left
    apply Ev.block
    simp only [htext, copyLoop, wp, Env.exec, State.ea, State.val, State.regs_set,
      State.flags_setFlags, State.regs_setFlags, if_true, reduceCtorEq, if_false,
      holds_l_sub, h.r14, h.rbx]
    split
    · rename_i hlt
      rw [slt_ofNat _ (by omega), hleft] at hlt
      exact hexit k _ (h.same (by simp +contextual) (by simp) rfl) hdvd hlt
    · rename_i hge
      rw [slt_ofNat _ (by omega), hleft] at hge
      have hle : k + w ≤ (t₀.regs .r14).toNat := by omega
      refine ih ((t₀.regs .r14).toNat - (k + w)) (by omega) (h.chunk hw.2 hle ?_ ?_ ?_)
        (Nat.dvd_add_self_right.mpr hdvd) rfl
      · simp +contextual
      · simp [h.rbx]
      · simp [h.r12, h.r13, h.rbx]

end Kernova
