import Kernova.Service.Transfer
import Kernova.Service.Lifecycle

/-!
# Residue of earlier messages

`send_data` writes as many bytes as the message has and keeps no record of its
length; `receive_data` reads as many as it is asked for. Behind the end of a
short message lies what an earlier one has left.

* `Transfer`, `EndsWith` — histories of transfers, up to a successful send.
* `NoResidue` — what is received after them does not depend on the history.
* `residue_iff` — how much may be received.
-/

namespace Kernova.Service

open X86
open Lts (Run)

/-! ## Histories -/

/-- Between two calls the program brings its memory to `m` and leaves the enclave
alone. -/
def LeavesEnclave (t : Process) (m : Mem) : Prop :=
  ∀ a, Buffer t.enclave.data a → m a = t.mem a

/-- A transfer that comes back, with any arguments and with any result. -/
structure Transfer (I : Image) (t : Process) (c : EnclaveCall) (u : Process) : Prop where
  init : c.request ≠ .init
  cleanup : c.request ≠ .cleanup
  back : ∃ m, LeavesEnclave t m ∧ Gives (fun n => c.request.perform I c.env n { t with mem := m }) u

/-- The request to send the `n` bytes `msg`, which lie at `src` in `m`. -/
structure Carries (I : Image) (t : Process) (msg : Nat → Byte) (n : Word) (e : CallEnv)
    (src : Word) (m : Mem) : Prop where
  site : CallSite I e t.enclave.data
  code : CodeOffStack I e
  memory : LeavesEnclave t m
  message : Message e t.enclave.data src n
  bytes : ∀ i < n.toNat, m (src + BitVec.ofNat 64 i) = msg i

/-- The request to receive `k` bytes at `dest`. -/
structure Collects (I : Image) (t : Process) (k : Word) (e : CallEnv) (dest : Word) (m : Mem) :
    Prop where
  site : CallSite I e t.enclave.data
  memory : LeavesEnclave t m
  buffer : Message e t.enclave.data dest k

/-- A successful `send_data(msg, n)`. -/
def Sends (I : Image) (t : Process) (msg : Nat → Byte) (n : Word) (u : Process) : Prop :=
  ∃ e src m, Carries I t msg n e src m ∧
    Gives (fun i => sendData I e i src n { t with mem := m }) (0, u)

/-- A successful `receive_data` of the `k` bytes `b`. -/
def Receives (I : Image) (t : Process) (k : Word) (b : Nat → Byte) : Prop :=
  ∃ e dest m w, Collects I t k e dest m ∧
    Gives (fun i => receiveData I e i dest k { t with mem := m }) (0, w) ∧
    ∀ i < k.toNat, w.mem (dest + BitVec.ofNat 64 i) = b i

/-- A history from `t` on that ends with a successful `send_data(msg, n)`. -/
def EndsWith (I : Image) (t : Process) (msg : Nat → Byte) (n : Word) (u : Process) : Prop :=
  ∃ cs v, Run (Transfer I) t cs v ∧ Sends I v msg n u

/-- After either history `k` bytes can be received, and they are the same ones. -/
structure NoResidue (I : Image) (u u' : Process) (k : Word) : Prop where
  arrives : ∀ v, v = u ∨ v = u' → ∀ e dest m, Collects I v k e dest m →
    ∃ w, Gives (fun i => receiveData I e i dest k { v with mem := m }) (0, w)
  same : ∀ b b', Receives I u k b → Receives I u' k b' → ∀ i < k.toNat, b' i = b i

/-! ## One history -/

section

variable {I : Image} {t u v : Process} {c : EnclaveCall} {msg : Nat → Byte} {n k : Word}
  {e : CallEnv} {p src dest : Word} {m : Mem}

theorem Undisturbed.holding (h : Undisturbed { t with mem := m } u) (ht : Holding t) :
    Holding u ∧ u.enclave = t.enclave :=
  ⟨ht.of_eq h.active h.enclave h.heap, h.enclave⟩

/-- A transfer leaves the enclave where it is. -/
theorem Transfer.holding (ht : Holding t) (h : Transfer I t c u) :
    Holding u ∧ u.enclave = t.enclave := by
  rcases h.back with ⟨m, -, hback⟩
  rcases Filter.Eventually.exists hback with ⟨i, hi⟩
  change c.request.perform I c.env i { t with mem := m } = some u at hi
  cases hreq : c.request with
  | init => exact absurd hreq h.init
  | cleanup => exact absurd hreq h.cleanup
  | send src size =>
    rw [hreq, Request.perform, Option.map_eq_some_iff] at hi
    rcases hi with ⟨⟨r, w⟩, hi, rfl⟩
    exact (sendData_returned hi).holding ht
  | receive dest size =>
    rw [hreq, Request.perform, Option.map_eq_some_iff] at hi
    rcases hi with ⟨⟨r, w⟩, hi, rfl⟩
    exact (receiveData_returned hi).holding ht

theorem run_holding {cs : List EnclaveCall} (ht : Holding t) (h : Run (Transfer I) t cs v) :
    Holding v ∧ v.enclave = t.enclave := by
  -- neither `send_data` nor `receive_data` touches the globals that say where the enclave is
  refine h.invariant (P := fun v => Holding v ∧ v.enclave = t.enclave) ⟨ht, rfl⟩ ?_
  rintro v c w ⟨hv, henclave⟩ hstep
  rcases hstep.holding hv with ⟨hw, hsame⟩
  exact ⟨hw, hsame.trans henclave⟩

/-- A holding process holds the enclave whatever it does to its memory. -/
theorem Holding.setMem (ht : Holding t) (m : Mem) : Holding { t with mem := m } :=
  ht.of_eq rfl rfl rfl

/-- After a successful send the message lies in the enclave backwards. -/
theorem Sends.holds (ht : Holding t) (h : Sends I t msg n u) :
    Holding u ∧ Packs I n ∧ ∀ i < n.toNat,
      u.mem (u.enclave.data + BitVec.ofNat 64 i) = msg (n.toNat - 1 - i) := by
  rcases h with ⟨e, src, m, hc, hsend⟩
  have hpack : Packs I n := by
    -- a message that cannot be packed has not been sent with success
    by_contra hno
    rcases Filter.Eventually.exists hsend with ⟨i, hi⟩
    exact sendData_lost hno (ht.setMem m) hc.site hc.code hc.message i hi
  rcases sendData_packed hpack (ht.setMem m) hc.site hc.message with ⟨u', hsent, hsend'⟩
  obtain ⟨-, rfl⟩ := Prod.mk.inj (Gives.unique hsend hsend')
  refine ⟨hsent.holding (ht.setMem m), hpack, fun i hi => ?_⟩
  rw [hsent.enclave, hsent.reversed i hi]
  exact hc.bytes _ (by omega)

theorem EndsWith.holds (ht : Holding t) (h : EndsWith I t msg n u) :
    Holding u ∧ Packs I n ∧ ∀ i < n.toNat,
      u.mem (u.enclave.data + BitVec.ofNat 64 i) = msg (n.toNat - 1 - i) := by
  rcases h with ⟨cs, v, hrun, hsend⟩
  exact hsend.holds (run_holding ht hrun).1

/-- What is received lies in the enclave. -/
theorem Collects.received (ht : Holding t) (h : Collects I t k e dest m) : ∃ w,
    Gives (fun i => receiveData I e i dest k { t with mem := m }) (0, w) ∧
    ∀ i < k.toNat, w.mem (dest + BitVec.ofNat 64 i) =
      t.mem (t.enclave.data + BitVec.ofNat 64 i) := by
  rcases receiveData_spec (ht.setMem m) h.site h.buffer with ⟨w, hw, hreceive⟩
  refine ⟨w, hreceive, fun i hi => ?_⟩
  rw [hw.copied i hi]
  have hlt : i < enclaveSize.toNat := hi.trans_le h.buffer.le_enclave
  exact h.memory _ (inRange_add_ofNat _ hlt (hlt.trans (by decide)))

theorem Receives.bytes {b : Nat → Byte} (ht : Holding t) (h : Receives I t k b) :
    ∀ i < k.toNat, b i = t.mem (t.enclave.data + BitVec.ofNat 64 i) := by
  rcases h with ⟨e, dest, m, w, hc, hreceive, hbytes⟩
  rcases hc.received ht with ⟨w', hreceive', hw⟩
  obtain ⟨-, rfl⟩ := Prod.mk.inj (Gives.unique hreceive hreceive')
  intro i hi
  rw [← hbytes i hi, hw i hi]

/-! ## Two histories -/

/-- As much as was sent is the same after any two histories. -/
theorem noResidue_of_le {t' u' : Process} (ht : Holding t) (ht' : Holding t')
    (hle : k.toNat ≤ n.toNat) (hu : EndsWith I t msg n u) (hu' : EndsWith I t' msg n u') :
    NoResidue I u u' k := by
  rcases hu.holds ht with ⟨hhold, -, hmsg⟩
  rcases hu'.holds ht' with ⟨hhold', -, hmsg'⟩
  constructor
  · rintro v (rfl | rfl) e dest m hc
    · rcases hc.received hhold with ⟨w, hw, -⟩
      exact ⟨w, hw⟩
    · rcases hc.received hhold' with ⟨w, hw, -⟩
      exact ⟨w, hw⟩
  · intro b b' hb hb' i hi
    rw [hb.bytes hhold i hi, hb'.bytes hhold' i hi, hmsg i (by omega), hmsg' i (by omega)]

/-- A caller with a buffer of the greatest size at `p`. -/
structure Room (I : Image) (t : Process) (e : CallEnv) (p : Word) : Prop where
  site : CallSite I e t.enclave.data
  code : CodeOffStack I e
  buffer : Message e t.enclave.data p dataBufferSize

/-- A size that a transfer may have. -/
def Transferable (n : Word) : Prop := 1 ≤ n.toNat ∧ n.toNat ≤ dataBufferSize.toNat

/-- Memory with the `n` bytes `f` at `p`. -/
def withBytes (m : Mem) (p : Word) (n : Nat) (f : Nat → Byte) : Mem := fun a =>
  if gap p a < n then f (gap p a) else m a

theorem withBytes_at {f : Nat → Byte} {i : Nat} {l : Nat} (hi : i < l) (hl : l ≤ 2 ^ 64) :
    withBytes m p l f (p + BitVec.ofNat 64 i) = f i := by
  rw [withBytes, gap_add_ofNat _ (by omega), if_pos hi]

theorem Room.message (h : Room I t e p) (hn : Transferable n) : Message e t.enclave.data p n where
  pointer := h.buffer.pointer
  pos := hn.1
  le := hn.2
  apart := fun a ha => h.buffer.apart a (ha.mono hn.2)
  stack := fun a ha => h.buffer.stack a (ha.mono hn.2)

/-- The caller has the message written to its buffer. -/
theorem Room.carries (h : Room I t e p) (hn : Transferable n) (msg : Nat → Byte) :
    Carries I t msg n e p (withBytes t.mem p n.toNat msg) where
  site := h.site
  code := h.code
  memory := by
    intro a ha
    refine if_neg fun hin => ?_
    exact (h.message hn).apart a hin ha
  message := h.message hn
  bytes := fun i hi => withBytes_at hi (Nat.le_of_lt n.isLt)

theorem Room.of_enclave (h : Room I t e p) (hu : u.enclave = t.enclave) : Room I u e p := by
  refine ⟨?_, h.code, ?_⟩
  · rw [hu]
    exact h.site
  · rw [hu]
    exact h.buffer

theorem Room.collects (h : Room I t e p) (hk : Transferable k) : Collects I t k e p t.mem where
  site := h.site
  memory := fun _ _ => rfl
  buffer := h.message hk

/-- One send from the caller's buffer. -/
theorem Room.sends (h : Room I t e p) (ht : Holding t) (hn : Transferable n) (hpack : Packs I n)
    (msg : Nat → Byte) : ∃ u, Sent e { t with mem := withBytes t.mem p n.toNat msg } p n u ∧
      Gives (fun i => sendData I e i p n { t with mem := withBytes t.mem p n.toNat msg }) (0, u) :=
  sendData_packed hpack (ht.setMem _) h.site (h.message hn)

/-- A full buffer of bytes `x`, and then the message: behind its end the bytes `x`
are still there. -/
theorem filled_history (ht : Holding t) (h : Room I t e p) (hn : Transferable n)
    (hpack : Packs I n) (msg : Nat → Byte) (x : Byte) : ∃ u, EndsWith I t msg n u ∧ Room I u e p ∧
      ∀ i, n.toNat ≤ i → i < dataBufferSize.toNat →
        u.mem (u.enclave.data + BitVec.ofNat 64 i) = x := by
  have hfull : Transferable dataBufferSize := ⟨by decide, Nat.le_refl _⟩
  rcases h.sends ht hfull (fun _ => by decide) (fun _ => x) with ⟨v, hv, hsend⟩
  have hroom : Room I v e p := h.of_enclave hv.enclave
  rcases hroom.sends (hv.holding (ht.setMem _)) hn hpack msg with ⟨u, hu, hsend'⟩
  have hstep : Transfer I t ⟨.send p dataBufferSize, e⟩ v := by
    refine ⟨nofun, nofun, _, (h.carries hfull fun _ => x).memory, ?_⟩
    filter_upwards [hsend] with i hi
    exact congrArg (Option.map Prod.snd) hi
  refine ⟨u, ⟨_, v, Run.single hstep, e, p, _, hroom.carries hn msg, hsend'⟩,
    hroom.of_enclave hu.enclave, fun i hlow hi => ?_⟩
  have hlt : i < enclaveSize.toNat := hi.trans (by decide)
  have hin : Buffer v.enclave.data (v.enclave.data + BitVec.ofNat 64 i) :=
    inRange_add_ofNat _ hlt (hlt.trans (by decide))
  rw [hu.enclave, hu.rest i hlow hlt]
  -- the second message is not written to the enclave before it is sent
  refine ((hroom.carries hn msg).memory _ hin).trans ?_
  rw [hv.enclave, hv.reversed i hi]
  exact withBytes_at (f := fun _ => x) (show dataBufferSize.toNat - 1 - i < dataBufferSize.toNat by
    omega) (by decide)

/-- More than was sent is not. -/
theorem residue_of_lt {t' : Process} {e' : CallEnv} {p' : Word} (ht : Holding t)
    (ht' : Holding t') (h : Room I t e p) (h' : Room I t' e' p') (hn : Transferable n)
    (hk : Transferable k) (hpack : Packs I n) (hlt : n.toNat < k.toNat) (msg : Nat → Byte) :
    ∃ u u', EndsWith I t msg n u ∧ EndsWith I t' msg n u' ∧ ¬ NoResidue I u u' k := by
  rcases filled_history ht h hn hpack msg 0 with ⟨u, hu, hroom, hbytes⟩
  rcases filled_history ht' h' hn hpack msg 0xFF with ⟨u', hu', hroom', hbytes'⟩
  refine ⟨u, u', hu, hu', fun hall => ?_⟩
  -- the byte behind the message is 0x00 after the one history and 0xFF after the other
  have hreceives : ∀ {v : Process} {e : CallEnv} {p : Word}, Holding v → Room I v e p →
      ∃ b, Receives I v k b := by
    intro v e p hv hr
    rcases (hr.collects hk).received hv with ⟨w, hw, -⟩
    exact ⟨_, e, p, v.mem, w, hr.collects hk, hw, fun _ _ => rfl⟩
  rcases hreceives (hu.holds ht).1 hroom with ⟨b, hb⟩
  rcases hreceives (hu'.holds ht').1 hroom' with ⟨b', hb'⟩
  have hend : n.toNat < dataBufferSize.toNat := hlt.trans_le hk.2
  have hsame := hall.same b b' hb hb' n.toNat hlt
  rw [hb.bytes (hu.holds ht).1 _ hlt, hb'.bytes (hu'.holds ht').1 _ hlt,
    hbytes _ (Nat.le_refl _) hend, hbytes' _ (Nat.le_refl _) hend] at hsame
  exact absurd hsame (by decide)

/-- What is received after any two histories that end with the same message is the
same exactly if no more is received than was sent last, or no message of that
size can be sent at all. -/
theorem residue_iff {t' : Process} {e' : CallEnv} {p' : Word} (ht : Holding t)
    (ht' : Holding t') (h : Room I t e p) (h' : Room I t' e' p') (hn : Transferable n)
    (hk : Transferable k) :
    (∀ u u', EndsWith I t msg n u → EndsWith I t' msg n u' → NoResidue I u u' k) ↔
      (k.toNat ≤ n.toNat ∨ ¬ Packs I n) := by
  constructor
  · intro hall
    by_contra hno
    rw [not_or, not_not, Nat.not_le] at hno
    rcases residue_of_lt ht ht' h h' hn hk hno.2 hno.1 msg with ⟨u, u', hu, hu', hres⟩
    exact hres (hall u u' hu hu')
  · rintro (hle | hno) u u' hu hu'
    · exact noResidue_of_le ht ht' hle hu hu'
    · exact absurd (hu.holds ht).2.1 hno

end

/-! ## A short message after a long one -/

/-- The sample's caller, with its buffer at 0x20000. -/
theorem transferSample_room : Room narrowImage transferSample (sampleCaller 0) 0x20000 where
  site := transferSample_site
  code := by
    intro a ha
    have hcode : Apart (0x8000 - BitVec.ofNat 64 72 : Word) 80 codeBase (128 * 320) :=
      apart_of_gap (by decide) (by decide)
    refine ⟨sampleSite_of_not (hcode a ha), ?_⟩
    rintro rfl
    exact absurd ha (show ¬ InRange (0 : Word) (0x8000 - BitVec.ofNat 64 72) 80 by decide)
  buffer := by
    have hap : Apart (0x20000 : Word) dataBufferSize.toNat 0x100000 enclaveSize.toNat :=
      apart_of_gap (by decide) (by decide)
    have hstack : Apart (0x20000 : Word) dataBufferSize.toNat (0x8000 - BitVec.ofNat 64 72) 80 :=
      apart_of_gap (by decide) (by decide)
    exact ⟨by decide, by decide, Nat.le_refl _, hap, hstack⟩

theorem residue_iff_sample : (∀ u u', EndsWith narrowImage transferSample (fun _ => 65) 1 u →
    EndsWith narrowImage transferSample (fun _ => 65) 1 u' → NoResidue narrowImage u u' 2) ↔
      ((2 : Word).toNat ≤ (1 : Word).toNat ∨ ¬ Packs narrowImage 1) :=
  residue_iff transferSample_holding transferSample_holding transferSample_room
    transferSample_room ⟨by decide, by decide⟩ ⟨by decide, by decide⟩

/-- One byte is sent and two are received: the second one is what a buffer full of
0x00 or of 0xFF has left. -/
theorem residue_received : ¬ ∀ I t t' msg n k u u', Holding t → Holding t' →
    Transferable n → Transferable k → EndsWith I t msg n u → EndsWith I t' msg n u' →
      NoResidue I u u' k := by
  intro h
  have hone : Transferable 1 := ⟨by decide, by decide⟩
  have htwo : Transferable 2 := ⟨by decide, by decide⟩
  rcases residue_of_lt transferSample_holding transferSample_holding transferSample_room
    transferSample_room hone htwo (fun havx => absurd havx (by decide)) (by decide)
    (fun _ => 65) with ⟨u, u', hu, hu', hres⟩
  exact hres (h _ _ _ _ _ _ _ _ transferSample_holding transferSample_holding hone htwo hu hu')

end Kernova.Service
