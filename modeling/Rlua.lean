import Rlua.Lua.Value
import Rlua.Lua.Api
import Rlua.Util.Envelope
import Rlua.Util.Guard
import Rlua.Util.Callback
import Rlua.Util.ProtectedCall
import Rlua.Util.Init
import Rlua.Runtime.Interp
import Rlua.Proofs.HostStack
import Rlua.Proofs.StackEffects
import Rlua.Proofs.RoundTrip
import Rlua.Proofs.EnvelopeInvariant
import Rlua.Proofs.StackSpace
import Rlua.Proofs.Propagation
import Rlua.Proofs.Refinement
import Rlua.Proofs.TypedErrors
import Rlua.Proofs.Destructed
import Rlua.Proofs.Collector
import Rlua.Proofs.RuntimeErrors
import Rlua.Proofs.RustProtocol
import Rlua.Proofs.Safety
import Rlua.Proofs.SafeRuns
import Rlua.Proofs.Fuel
