import Mathlib.Data.List.Basic

namespace SoftwareContainers

/-- Everything a function of the program can end with instead of returning.
The classes are the program's own, glibmm's and the standard library's;
`undefined` is behaviour the C++ standard leaves open, which no handler sees. -/
inductive Fault where
  | softwareContainerError (message : String)
  | invalidOperationError (message : String)
  | containerError (message : String)
  | invalidContainerError (message : String)
  | gatewayError (message : String)
  | ipAllocationError (message : String)
  | limitRangeError (message : String)
  | badSuffixError (message : String)
  | jSonError (message : String)
  | invalidInputError (message : String)
  | containerOptionParseError (message : String)
  | softwareContainerAgentError (message : String)
  | gatewayParserError (message : String)
  | shellError
  | invalidArgument
  | outOfRange
  | undefined
  deriving DecidableEq, Repr

namespace Fault

/-- `catch (SoftwareContainerError &)`: the class itself and those derived from
it.  `GatewayParserError` derives from `std::exception` directly. -/
def isSoftwareContainerError : Fault → Bool
  | .gatewayParserError _ | .shellError | .invalidArgument | .outOfRange
  | .undefined => false
  | _ => true

def isCgroupsGatewayError : Fault → Bool
  | .limitRangeError _ | .badSuffixError _ | .jSonError _
  | .invalidInputError _ => true
  | _ => false

/-- The text `what()` returns. -/
def what : Fault → String
  | .softwareContainerError message | .invalidOperationError message
  | .containerError message | .invalidContainerError message
  | .gatewayError message | .ipAllocationError message
  | .limitRangeError message | .badSuffixError message
  | .jSonError message | .invalidInputError message
  | .containerOptionParseError message
  | .softwareContainerAgentError message
  | .gatewayParserError message => message
  | .shellError | .invalidArgument | .outOfRange | .undefined => ""

theorem isSoftwareContainerError_of_isCgroupsGatewayError {fault : Fault}
    (cgroups : fault.isCgroupsGatewayError) :
    fault.isSoftwareContainerError := by
  cases fault <;> first | rfl | cases cgroups

end Fault

end SoftwareContainers
