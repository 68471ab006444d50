import Kernova.Service.Backend
import Kernova.Text.Lines
import Mathlib.Data.List.ReduceOption

/-!
# `get_virtualization_status`

The dashboard reads `/proc/cpuinfo` and says which backend the service is going to use,
without asking the service.

* `readField_render` — what the dashboard reads in the file is what the kernel wrote.
* `dashboard_agrees` — when it names the backend that `select_backend` returns.
-/

namespace Kernova.Dashboard

open X86
open Text
open Driver (dwordBytes)
open Service (CpuVendor CpuFeatures BackendKind Backends EnvVars HostAnswers detectCpuFeatures vendorOf chars)

/-! ## `/proc/cpuinfo` -/

/-- A line with a key. -/
structure Entry where
  key : List Char
  text : List Char
  key_ok : ∀ c ∈ key, c ≠ ':' ∧ isLineBreak c = false
  text_ok : ∀ c ∈ text, isLineBreak c = false

def Entry.line (e : Entry) : List Char := e.key ++ ':' :: e.text

/-- The entries of all processors, with blank lines in between. -/
abbrev CpuInfo := List (Option Entry)

namespace CpuInfo

def render (f : CpuInfo) : List Char := unlines (f.map (Option.elim · [] Entry.line))

/-- The text of the first entry whose key starts so. -/
def lookup (pre : List Char) (f : CpuInfo) : Option (List Char) :=
  (f.reduceOption.find? fun e => pre.isPrefixOf e.key).map Entry.text

end CpuInfo

/-! ## The status -/

/-- The text after the colon of the first line that starts so, if there is such a line. A
line without a colon is an `IndexError`. -/
def readField (pre : List Char) (lines : List (List Char)) : Option (Option (List Char)) :=
  match lines.find? (pre.isPrefixOf ·) with
  | none => some none
  | some line => (afterFirst ':' line).map some

/-- The dictionary that `get_virtualization_status` returns. -/
structure VirtualizationStatus where
  vendor : List Char
  vendorId : List Char
  vmxSupported : Bool
  svmSupported : Bool
  selectedBackend : String
  kernelDriverAvailable : Bool
  kernelDriverPath : String
  hardwareBackendEnabled : Bool
  strictMode : Bool
  runtimeValidation : String
deriving DecidableEq, Repr

/-- The vendor as it is shown. -/
def shownVendor (vendorId : List Char) : List Char :=
  if vendorId = "AuthenticAMD".toList then "AMD".toList
  else if vendorId = "GenuineIntel".toList then "Intel".toList
  else vendorId

/-- The backend as it is shown. -/
def shownBackend (vendor : List Char) (vmx svm kernelDriverAvailable : Bool) : String :=
  if kernelDriverAvailable then "Kernel Driver"
  else if vendor = "AMD".toList ∧ svm then "AMD SVM"
  else if vendor = "Intel".toList ∧ vmx then "Intel VMX"
  else "Userspace PoC"

/-- `get_virtualization_status`, given what `/proc/cpuinfo` holds, if it exists, and whether
`/dev/kernova` does. -/
def getVirtualizationStatus (cpuinfo : Option (List Char)) (vars : EnvVars)
    (kernelDriverAvailable : Bool) : Option VirtualizationStatus := do
  let lines := (cpuinfo.map splitlines).getD []
  let vendorField ← readField "vendor_id".toList lines
  let flagsField ← readField "flags".toList lines
  let vendorId := (vendorField.map strip).getD "Unknown".toList
  let flags := (flagsField.map fun text => split (strip text)).getD []
  let vendor := shownVendor vendorId
  let vmx := decide ("vmx".toList ∈ flags)
  let svm := decide ("svm".toList ∈ flags)
  return {
    vendor := vendor
    vendorId := vendorId
    vmxSupported := vmx
    svmSupported := svm
    selectedBackend := shownBackend vendor vmx svm kernelDriverAvailable
    kernelDriverAvailable := kernelDriverAvailable
    kernelDriverPath := "/dev/kernova"
    hardwareBackendEnabled := vars.enableHardwareBackend == some "1"
    strictMode := vars.strictVmx == some "1"
    runtimeValidation := "Kernel driver when /dev/kernova is loaded; otherwise PoC/Fallback" }

/-- `backend_kind_name` -/
def backendKindName : BackendKind → String
  | .kernelDriver => "Kernel Driver"
  | .intelVmx => "Intel VMX"
  | .amdSvm => "AMD SVM"
  | .userspacePoC => "Userspace PoC"

/-- `cpu_vendor_name` -/
def cpuVendorName : CpuVendor → String
  | .intel => "Intel"
  | .amd => "AMD"
  | .unknown => "Unknown"

/-! ## Reading the file -/

theorem Entry.line_ok (e : Entry) : ∀ c ∈ e.line, isLineBreak c = false := by
  intro c hc
  rcases List.mem_append.mp hc with hc | hc
  · exact (e.key_ok c hc).2
  · rcases List.mem_cons.mp hc with rfl | hc
    · decide
    · exact e.text_ok c hc

theorem Entry.afterFirst_line (e : Entry) : afterFirst ':' e.line = some e.text :=
  afterFirst_append (fun h => (e.key_ok _ h).1 rfl) e.text

theorem splitlines_render (f : CpuInfo) :
    splitlines f.render = f.map (Option.elim · [] Entry.line) := by
  refine splitlines_unlines fun l hl => ?_
  rcases List.mem_map.mp hl with ⟨o, -, rfl⟩
  cases o with
  | none => exact fun c hc => absurd hc List.not_mem_nil
  | some e => exact e.line_ok

theorem CpuInfo.lookup_blank (pre : List Char) (f : CpuInfo) :
    CpuInfo.lookup pre (none :: f) = f.lookup pre := by
  rw [CpuInfo.lookup, List.reduceOption_cons_of_none, CpuInfo.lookup]

theorem CpuInfo.lookup_entry (pre : List Char) (e : Entry) (f : CpuInfo) :
    CpuInfo.lookup pre (some e :: f) =
      if pre.isPrefixOf e.key then some e.text else f.lookup pre := by
  rw [CpuInfo.lookup, List.reduceOption_cons_of_some]
  by_cases h : pre.isPrefixOf e.key = true
  · simp [h]
  · simp [h, CpuInfo.lookup]

/-- A key that is not empty is found where it was written. -/
theorem readField_render {pre : List Char} (hne : pre ≠ []) (hsep : ':' ∉ pre) (f : CpuInfo) :
    readField pre (splitlines f.render) = some (f.lookup pre) := by
  rw [splitlines_render]
  induction f with
  | nil => rfl
  | cons o f ih =>
    cases o with
    | none =>
      have hblank : pre.isPrefixOf [] = false := by
        cases pre with
        | nil => exact absurd rfl hne
        | cons c pre => rfl
      rw [CpuInfo.lookup_blank, ← ih]
      simp [readField, hblank]
    | some e =>
      have hkey : pre.isPrefixOf e.line = pre.isPrefixOf e.key :=
        isPrefixOf_append_cons hsep e.key e.text
      rw [CpuInfo.lookup_entry]
      by_cases hpre : pre.isPrefixOf e.key = true
      · simp [readField, hkey, hpre, e.afterFirst_line]
      · rw [if_neg hpre, ← ih]
        simp [readField, hkey, hpre]

/-- A file fails to be read exactly if one of the two lines is there without a colon. -/
theorem getVirtualizationStatus_eq_none {text : List Char} {vars : EnvVars} {driver : Bool} :
    getVirtualizationStatus (some text) vars driver = none ↔
      ∃ pre ∈ ["vendor_id".toList, "flags".toList], ∃ line,
        (splitlines text).find? (pre.isPrefixOf ·) = some line ∧ ':' ∉ line := by
  have hfield : ∀ pre, readField pre (splitlines text) = none ↔ ∃ line,
      (splitlines text).find? (pre.isPrefixOf ·) = some line ∧ ':' ∉ line := by
    intro pre
    unfold readField
    cases (splitlines text).find? (pre.isPrefixOf ·) with
    | none => simp
    | some line => simp [← afterFirst_eq_none]
  simp only [List.mem_cons, List.not_mem_nil, or_false, exists_eq_or_imp, exists_eq_left, ← hfield]
  simp only [getVirtualizationStatus, Option.map_some, Option.getD_some]
  cases readField "vendor_id".toList (splitlines text) with
  | none => simp
  | some v => cases readField "flags".toList (splitlines text) <;> simp

/-! ## Agreement with the service -/

/-- The file is about a host whose processors answer `CPUID` so: the vendor is the text of
leaf 0, and the two flags are the two features. No vendor has one of the short names. -/
structure Describes (f : CpuInfo) (cpuid : BitVec 32 → BitVec 32 → CpuidResult) : Prop where
  vendor : ∃ name, f.lookup "vendor_id".toList = some (' ' :: name) ∧ (∀ c ∈ name, c.toNat < 128) ∧
    name.map (fun c => BitVec.ofNat 8 c.toNat) = dwordBytes (cpuid 0 0).ebx ++
      dwordBytes (cpuid 0 0).edx ++ dwordBytes (cpuid 0 0).ecx ∧
    strip name ≠ "Intel".toList ∧ strip name ≠ "AMD".toList
  flags : ∃ ws : List (List Char), f.lookup "flags".toList = some (ws.flatMap (' ' :: ·)) ∧ (∀ w ∈ ws, IsWord w) ∧
    ("vmx".toList ∈ ws ↔ (detectCpuFeatures cpuid).vmx = true) ∧
    ("svm".toList ∈ ws ↔ (detectCpuFeatures cpuid).svm = true)

section

variable {cpuid : BitVec 32 → BitVec 32 → CpuidResult}

theorem detectCpuFeatures_vendor : (detectCpuFeatures cpuid).vendor =
    vendorOf (dwordBytes (cpuid 0 0).ebx ++ dwordBytes (cpuid 0 0).edx ++
      dwordBytes (cpuid 0 0).ecx) := by
  have hkept : ∀ features, (Service.detectSvmFeatures cpuid features).vendor = features.vendor := by
    intro features
    unfold Service.detectSvmFeatures
    split_ifs <;> rfl
  exact hkept _

/-- The characters of an ASCII text are its bytes. -/
theorem ascii_injective {s t : List Char} (hs : ∀ c ∈ s, c.toNat < 128)
    (ht : ∀ c ∈ t, c.toNat < 128)
    (h : s.map (fun c => BitVec.ofNat 8 c.toNat) = t.map fun c => BitVec.ofNat 8 c.toNat) :
    s = t := by
  induction s generalizing t with
  | nil => exact (List.map_eq_nil_iff.mp h.symm).symm
  | cons c s ih =>
    cases t with
    | nil => cases h
    | cons d t =>
      rw [List.map_cons, List.map_cons, List.cons.injEq] at h
      have hc := hs c List.mem_cons_self
      have hd := ht d List.mem_cons_self
      have hcd : c.toNat = d.toNat := by
        have hmod := congrArg BitVec.toNat h.1
        rw [BitVec.toNat_ofNat, BitVec.toNat_ofNat] at hmod
        omega
      rw [Char.toNat_inj.mp hcd, ih (fun c hc => hs c (List.mem_cons_of_mem _ hc))
        (fun c hc => ht c (List.mem_cons_of_mem _ hc)) h.2]

/-- A vendor of twelve characters is recognised in the file as it is in the registers. -/
theorem strip_vendor {name : List Char} {id : List Byte} {s : String}
    (hascii : ∀ c ∈ name, c.toNat < 128) (hid : name.map (fun c => BitVec.ofNat 8 c.toNat) = id)
    (hlen : id.length = s.toList.length) (hs : ∀ c ∈ s.toList, c.toNat < 128)
    (hstrip : strip s.toList = s.toList) :
    strip (' ' :: name) = s.toList ↔ id = chars s := by
  rw [strip_cons_space (by decide), ← hid, chars]
  constructor
  · intro h
    rw [← hid, List.length_map] at hlen
    rw [eq_of_strip_eq h hlen]
  · intro h
    rw [ascii_injective hascii hs h, hstrip]

theorem vendorOf_eq_intel {id : List Byte} : vendorOf id = .intel ↔ id = chars "GenuineIntel" := by
  unfold vendorOf
  split_ifs <;> simp_all

theorem vendorOf_eq_amd {id : List Byte} : vendorOf id = .amd ↔ id = chars "AuthenticAMD" := by
  have hdiff : chars "GenuineIntel" ≠ chars "AuthenticAMD" := by decide
  unfold vendorOf
  split_ifs <;> simp_all

theorem shownVendor_eq_intel {id : List Char} (h : id ≠ "Intel".toList) :
    shownVendor id = "Intel".toList ↔ id = "GenuineIntel".toList := by
  have hdiff : "GenuineIntel".toList ≠ "AuthenticAMD".toList := by decide
  have hshort : "AMD".toList ≠ "Intel".toList := by decide
  unfold shownVendor
  split_ifs <;> simp_all

theorem shownVendor_eq_amd {id : List Char} (h : id ≠ "AMD".toList) :
    shownVendor id = "AMD".toList ↔ id = "AuthenticAMD".toList := by
  have hshort : "Intel".toList ≠ "AMD".toList := by decide
  unfold shownVendor
  split_ifs <;> simp_all

/-- The status of a host, by its features. -/
structure Tells (cpuid : BitVec 32 → BitVec 32 → CpuidResult) (vars : EnvVars) (driver : Bool)
    (v : VirtualizationStatus) : Prop where
  intel : v.vendor = "Intel".toList ↔ (detectCpuFeatures cpuid).vendor = .intel
  amd : v.vendor = "AMD".toList ↔ (detectCpuFeatures cpuid).vendor = .amd
  vmx : v.vmxSupported = (detectCpuFeatures cpuid).vmx
  svm : v.svmSupported = (detectCpuFeatures cpuid).svm
  backend : v.selectedBackend = shownBackend v.vendor v.vmxSupported v.svmSupported driver
  enabled : vars.hardwareBackendEnabled = (v.hardwareBackendEnabled || v.strictMode)

theorem status_tells {f : CpuInfo} (h : Describes f cpuid) (vars : EnvVars) (driver : Bool) :
    ∃ v, getVirtualizationStatus (some f.render) vars driver = some v ∧
      Tells cpuid vars driver v := by
  rcases h with ⟨⟨name, hname, hascii, hid, hintel, hamd⟩, ws, hws, hwords, hvmx, hsvm⟩
  have hvendor : readField "vendor_id".toList (splitlines f.render) = some (f.lookup _) :=
    readField_render (by decide) (by decide) f
  have hflags : readField "flags".toList (splitlines f.render) = some (f.lookup _) :=
    readField_render (by decide) (by decide) f
  rw [hname] at hvendor
  rw [hws] at hflags
  simp only [getVirtualizationStatus, Option.map_some, Option.getD_some, hvendor, hflags,
    Option.bind_eq_bind, Option.bind_some, split_strip, split_words hwords]
  refine ⟨_, rfl, ?_, ?_, ?_, ?_, rfl, rfl⟩
  · rw [← strip_cons_space (show isSpace ' ' = true by decide)] at hintel
    rw [shownVendor_eq_intel hintel, detectCpuFeatures_vendor, vendorOf_eq_intel]
    exact strip_vendor hascii hid rfl (by simp) (by decide)
  · rw [← strip_cons_space (show isSpace ' ' = true by decide)] at hamd
    rw [shownVendor_eq_amd hamd, detectCpuFeatures_vendor, vendorOf_eq_amd]
    exact strip_vendor hascii hid rfl (by simp) (by decide)
  · rw [Bool.eq_iff_iff, decide_eq_true_iff, hvmx]
  · rw [Bool.eq_iff_iff, decide_eq_true_iff, hsvm]

theorem selectBackend_kernel (b : Backends) (cpu : CpuFeatures) (a : HostAnswers) :
    (b.selectBackend cpu a).1 =
      if 0 ≤ b.kernel.fd ∨ 0 ≤ a.openDevice then .kernelDriver
      else if cpu.vendor = .intel ∧ cpu.vmx then .intelVmx
      else if cpu.vendor = .amd ∧ cpu.svm then .amdSvm
      else .userspacePoC := by
  unfold Backends.selectBackend Backends.kernelAvailable
  by_cases hfd : 0 ≤ b.kernel.fd
  · simp [hfd]
  · by_cases hopen : 0 ≤ a.openDevice
    · simp [hfd, hopen]
    · simp only [hfd, hopen, decide_false, or_false, if_false]
      split_ifs <;> rfl

/-- Without a driver, the processor decides. -/
theorem shownBackend_without {vars : EnvVars} {driver : Bool} {v : VirtualizationStatus}
    (h : Tells cpuid vars driver v) :
    shownBackend v.vendor v.vmxSupported v.svmSupported false = backendKindName
      (if (detectCpuFeatures cpuid).vendor = .intel ∧ (detectCpuFeatures cpuid).vmx then .intelVmx
      else if (detectCpuFeatures cpuid).vendor = .amd ∧ (detectCpuFeatures cpuid).svm then .amdSvm
      else .userspacePoC) := by
  simp only [shownBackend, h.intel, h.amd, h.vmx, h.svm]
  cases (detectCpuFeatures cpuid).vendor with
  | intel => cases (detectCpuFeatures cpuid).vmx <;> simp [backendKindName]
  | amd => cases (detectCpuFeatures cpuid).svm <;> simp [backendKindName]
  | unknown => simp [backendKindName]

/-- The dashboard names the backend that the service is going to use exactly if the device
is there when the service can open it, and only then. -/
theorem dashboard_agrees {f : CpuInfo} (h : Describes f cpuid) (vars : EnvVars) (driver : Bool)
    (b : Backends) (a : HostAnswers) :
    ∃ v, getVirtualizationStatus (some f.render) vars driver = some v ∧
      Tells cpuid vars driver v ∧
      (v.selectedBackend = backendKindName (b.selectBackend (detectCpuFeatures cpuid) a).1 ↔
        (driver = true ↔ 0 ≤ b.kernel.fd ∨ 0 ≤ a.openDevice)) := by
  rcases status_tells h vars driver with ⟨v, hv, htells⟩
  refine ⟨v, hv, htells, ?_⟩
  have hother : ∀ vendor vmx svm, shownBackend vendor vmx svm false ≠ "Kernel Driver" := by
    intro vendor vmx svm
    rw [shownBackend, if_neg (by decide)]
    split_ifs <;> decide
  rw [selectBackend_kernel, htells.backend]
  by_cases hopen : 0 ≤ b.kernel.fd ∨ 0 ≤ a.openDevice
  · rw [if_pos hopen]
    cases driver with
    | true => simp [hopen, shownBackend, backendKindName]
    | false => simpa [hopen, backendKindName] using hother _ _ _
  · rw [if_neg hopen, ← shownBackend_without htells]
    cases driver with
    | true => simpa [hopen, shownBackend] using (hother _ _ _).symm
    | false => simp [hopen]

end

/-! ## A host -/

/-- A processor of the first vendor, with VMX. -/
def sampleCpuid (leaf _ : BitVec 32) : CpuidResult :=
  if leaf = 0 then ⟨0, 0x756E6547, 0x6C65746E, 0x49656E69⟩
  else if leaf = 1 then ⟨0, 0, 0x20, 0⟩
  else ⟨0, 0, 0, 0⟩

def vendorEntry : Entry :=
  ⟨"vendor_id\t".toList, " GenuineIntel".toList, by simp [isLineBreak], by simp [isLineBreak]⟩

def flagsEntry : Entry :=
  ⟨"flags\t\t".toList, " fpu vmx sse2".toList, by simp [isLineBreak], by simp [isLineBreak]⟩

/-- Two processors. -/
def sampleCpuInfo : CpuInfo :=
  [some vendorEntry, some flagsEntry, none, some vendorEntry, some flagsEntry, none]

theorem sampleCpuInfo_describes : Describes sampleCpuInfo sampleCpuid where
  vendor := ⟨"GenuineIntel".toList, by decide, by simp, by decide, by decide, by decide⟩
  flags := ⟨["fpu".toList, "vmx".toList, "sse2".toList], by decide, by simp [IsWord, isSpace],
    by decide, by decide⟩

/-- The service may not open the device. -/
def lockedDevice : HostAnswers := ⟨-1, none, 0, 0, (0, ⟨0, 0, 0, 0, 0, 0, 0⟩), 0, 0, 0⟩

theorem dashboard_agrees_sample :
    ∃ v, getVirtualizationStatus (some sampleCpuInfo.render) ⟨none, none⟩ true = some v ∧
      v.selectedBackend ≠ "Intel VMX" ∧
      (Backends.start.selectBackend (detectCpuFeatures sampleCpuid) lockedDevice).1 =
        .intelVmx := by
  rcases dashboard_agrees sampleCpuInfo_describes ⟨none, none⟩ true .start lockedDevice with
    ⟨v, hv, -, hagree⟩
  have hkind : (Backends.start.selectBackend (detectCpuFeatures sampleCpuid) lockedDevice).1 =
    .intelVmx := by decide
  refine ⟨v, hv, fun heq => ?_, hkind⟩
  have hdriver := hagree.mp (by rw [hkind, heq]; rfl)
  exact absurd (hdriver.mp rfl) (by decide)

end Kernova.Dashboard
