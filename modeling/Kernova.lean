import Kernova.X86.Rules
import Kernova.X86.Stack
import Kernova.Asm.Labels
import Kernova.Asm.SimdPacker
import Kernova.Asm.Image
import Kernova.Asm.Linking
import Kernova.Convention
import Kernova.Marshall.ReturnCodes
import Kernova.Monitor.Session
import Kernova.Driver.Phases
import Kernova.Driver.Msr
import Kernova.Driver.Failure
import Kernova.Driver.Validity
import Kernova.Driver.Vmcb
import Kernova.Vmx.Init
import Kernova.Vmx.Hooks
import Kernova.Vmx.Cpuid
import Kernova.Vmx.ExitStack
import Kernova.Service.Transfer
import Kernova.Service.Startup
import Kernova.Service.Cleanup
import Kernova.Vmx.Controls
import Kernova.Vmx.Rip
import Kernova.Vmx.Records
import Kernova.Vmx.Vectors
import Kernova.Vmx.CrAccess
import Kernova.Vmx.Regions
import Kernova.Vmx.Outcomes
import Kernova.Service.Order
import Kernova.Clients.Agreement
import Kernova.Driver.Interrupts
import Kernova.Marshall.Detection
import Kernova.Marshall.Memcpy
import Kernova.Service.Digest
import Kernova.Service.Residue
import Kernova.Service.PackUnpack
import Kernova.Monitor.Verdict
import Kernova.Service.Wipe
import Kernova.Service.SvmContext
import Kernova.Service.Segment
import Kernova.Monitor.Watchpoints
import Kernova.Monitor.Timeline
import Kernova.Monitor.Severity
import Kernova.Monitor.Reset
import Kernova.Service.Main
import Kernova.Service.Linked
import Kernova.Vmx.Monitoring
import Kernova.Marshall.Overlap
import Kernova.Monitor.Tampering
import Kernova.Clients.Verdicts
import Kernova.Dashboard.Status
import Kernova.Vmx.Vmcs
import Kernova.Driver.Sessions
import Kernova.Clients.OnDriver
