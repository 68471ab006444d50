import Kernova.X86.Memory

/-!
# `kernova_abi.h`

The interface between the driver and its clients: capabilities, requests, and
the numbers of the ioctls.
-/

namespace Kernova.Driver

open X86

def kernovaAbiVersion : BitVec 32 := 0x00010000
def kernovaDriverName : String := "kernova-linux"

def kernovaBackendAmdSvm : BitVec 32 := 1 <<< 0
def kernovaBackendIntelVmx : BitVec 32 := 1 <<< 1
def kernovaBackendUserspaceFallback : BitVec 32 := 1 <<< 2

def kernovaRunAllowPrivileged : BitVec 32 := 1 <<< 0

/-- `enum kernova_runtime_state` -/
inductive RuntimeState where
  | uninitialized | capsReady | backendInitialized | vmCreated | launchBlocked | vmexitReceived
  | error
deriving DecidableEq, Repr

def RuntimeState.code : RuntimeState → BitVec 32
  | uninitialized => 0
  | capsReady => 1
  | backendInitialized => 2
  | vmCreated => 3
  | launchBlocked => 4
  | vmexitReceived => 5
  | error => 6

/-- `struct kernova_caps`, without its reserved fields; the one-byte flags are
0 or 1. -/
structure Caps where
  abiVersion : BitVec 32
  backendFlags : BitVec 32
  runtimeState : RuntimeState
  driverName : String
  cpuVendor : List Byte
  svmRevision : BitVec 32
  svmAsidCount : BitVec 32
  driverLoaded : Bool
  svmSupported : Bool
  vmxSupported : Bool
  svmInitialized : Bool
  vmCreated : Bool
  vmrunEnabled : Bool
  lastVmexitValid : Bool
  lastExitCode : Word
  lastExitInfo1 : Word
  lastExitInfo2 : Word
deriving DecidableEq, Repr

/-- `memset(caps, 0, sizeof(*caps))` -/
def Caps.zero : Caps :=
  ⟨0, 0, .uninitialized, "", [], 0, 0, false, false, false, false, false, false, false, 0, 0, 0⟩

structure InitRequest where
  backendFlags : BitVec 32
  reserved : BitVec 32
deriving DecidableEq, Repr

structure CreateVmRequest where
  backendFlags : BitVec 32
  guestSize : BitVec 32
deriving DecidableEq, Repr

structure RunRequest where
  flags : BitVec 32
  reserved : BitVec 32
  runtimeState : BitVec 32
  status : BitVec 32
  exitCode : Word
  exitInfo1 : Word
  exitInfo2 : Word
deriving DecidableEq, Repr

/-! ## Ioctl numbers -/

/-- `_IOC(dir, type, nr, size)` -/
def ioc (dir type nr size : BitVec 32) : BitVec 32 :=
  dir <<< 30 ||| size <<< 16 ||| type <<< 8 ||| nr

/-- `_IOC_TYPE(cmd)` -/
def iocType (cmd : BitVec 32) : BitVec 32 := cmd >>> 8 &&& 0xFF

def kernovaIoctlMagic : BitVec 32 := 0x4B

def kernovaIoctlQueryCaps : BitVec 32 := ioc 2 kernovaIoctlMagic 1 104
def kernovaIoctlInitBackend : BitVec 32 := ioc 1 kernovaIoctlMagic 2 8
def kernovaIoctlCreateVm : BitVec 32 := ioc 1 kernovaIoctlMagic 3 8
def kernovaIoctlRunVm : BitVec 32 := ioc 3 kernovaIoctlMagic 4 40
def kernovaIoctlDestroyVm : BitVec 32 := ioc 0 kernovaIoctlMagic 5 0

/-- The cases of `kernova_ioctl`'s switch. -/
inductive Command where
  | queryCaps | initBackend | createVm | runVm | destroyVm | unknown
deriving DecidableEq, Repr

/-- The case that a command number selects; `none` if it is not the driver's. -/
def Command.decode (cmd : BitVec 32) : Option Command :=
  if iocType cmd ≠ kernovaIoctlMagic then none
  else if cmd = kernovaIoctlQueryCaps then some queryCaps
  else if cmd = kernovaIoctlInitBackend then some initBackend
  else if cmd = kernovaIoctlCreateVm then some createVm
  else if cmd = kernovaIoctlRunVm then some runVm
  else if cmd = kernovaIoctlDestroyVm then some destroyVm
  else some unknown

example : kernovaIoctlQueryCaps = 0x80684B01 ∧ kernovaIoctlRunVm = 0xC0284B04 := by decide

/-! ## Errors -/

def EPERM : Int := 1
def ENOMEM : Int := 12
def EFAULT : Int := 14
def ENODEV : Int := 19
def EINVAL : Int := 22
def ENOTTY : Int := 25
def EOPNOTSUPP : Int := 95

end Kernova.Driver
