import AccessControl.Callable.Builtin
import AccessControl.Proofs.Network.Block
import AccessControl.Proofs.Regex.Reader
import AccessControl.Proofs.Value.Keys

/-! Calls of the functions that are always there: they have an answer for any arguments, with
exceptions in the reading of addresses and of regular expressions. -/

namespace AccessControl

section

variable {runtime : Runtime}

namespace FailsOn

variable {name : String} {error : Error}

end FailsOn

namespace Callable

variable {name title first second : String}

/-! ### Arguments -/

end Callable

open Callable

end

open Callable

end AccessControl
