import GearSandbox.Codec
import GearSandbox.Errors
import GearSandbox.Runtime
import GearSandbox.Messages
import GearSandbox.Handlers
import GearSandbox.Syscalls
import GearSandbox.Refinement
import GearSandbox.TrapSlot
import GearSandbox.PreDispatch
import GearSandbox.Status
import GearSandbox.Termination
import GearSandbox.WithGas
import GearSandbox.ReadRange
import GearSandbox.Confinement
import GearSandbox.ReadBack
import GearSandbox.PayloadLimit
import GearSandbox.Arity
