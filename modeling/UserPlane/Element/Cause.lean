/-
  UserPlane.Element.Cause
  ───────────────────────
  **CAUSES: WHAT A REQUEST CAME TO.**

  Every response but that to a heartbeat says by its cause whether the request
  was accepted, and if not, why.
-/
import UserPlane.Wire.Coded
import UserPlane.Wire.Element

namespace UserPlane

/-- What a request came to. -/
inductive Cause where
  | reserved
  | requestAccepted
  | requestRejected
  | sessionContextNotFound
  | mandatoryIeMissing
  | conditionalIeMissing
  | invalidLength
  | mandatoryIeIncorrect
  | invalidForwardingPolicy
  | invalidFTeidAllocationOption
  | noEstablishedAssociation
  | ruleCreationModificationFailure
  | entityInCongestion
  | noResourcesAvailable
  | serviceNotSupported
  | systemFailure
  | redirectionRequested
  deriving DecidableEq, Repr

namespace Cause

/-- The octet that writes the cause. -/
def code : Cause → UInt8
  | .reserved => 0
  | .requestAccepted => 1
  | .requestRejected => 64
  | .sessionContextNotFound => 65
  | .mandatoryIeMissing => 66
  | .conditionalIeMissing => 67
  | .invalidLength => 68
  | .mandatoryIeIncorrect => 69
  | .invalidForwardingPolicy => 70
  | .invalidFTeidAllocationOption => 71
  | .noEstablishedAssociation => 72
  | .ruleCreationModificationFailure => 73
  | .entityInCongestion => 74
  | .noResourcesAvailable => 75
  | .serviceNotSupported => 76
  | .systemFailure => 77
  | .redirectionRequested => 78

/-- The name under which the cause is reported. -/
def name : Cause → String
  | .reserved => "Reserved"
  | .requestAccepted => "RequestAccepted"
  | .requestRejected => "RequestRejected"
  | .sessionContextNotFound => "SessionContextNotFound"
  | .mandatoryIeMissing => "MandatoryIEMissing"
  | .conditionalIeMissing => "ConditionalIEMissing"
  | .invalidLength => "InvalidLength"
  | .mandatoryIeIncorrect => "MandatoryIEIncorrect"
  | .invalidForwardingPolicy => "InvalidForwardingPolicy"
  | .invalidFTeidAllocationOption => "InvalidFTEIDAllocationOption"
  | .noEstablishedAssociation => "NoEstablishedPFCPAssociation"
  | .ruleCreationModificationFailure => "RuleCreationModificationFailure"
  | .entityInCongestion => "PFCPEntityInCongestion"
  | .noResourcesAvailable => "NoResourcesAvailable"
  | .serviceNotSupported => "ServiceNotSupported"
  | .systemFailure => "SystemFailure"
  | .redirectionRequested => "RedirectionRequested"

/-- Every cause. -/
def all : List Cause :=
  [.reserved, .requestAccepted, .requestRejected, .sessionContextNotFound,
   .mandatoryIeMissing, .conditionalIeMissing, .invalidLength, .mandatoryIeIncorrect,
   .invalidForwardingPolicy, .invalidFTeidAllocationOption, .noEstablishedAssociation,
   .ruleCreationModificationFailure, .entityInCongestion, .noResourcesAvailable,
   .serviceNotSupported, .systemFailure, .redirectionRequested]

instance : Coded Cause where
  all := all
  code := code
  name := name
  find_code a := by cases a <;> rfl

/-- Whether the request was accepted. -/
def isAccepted (c : Cause) : Bool := c == .requestAccepted

instance : Element Cause where
  code := 19
  label := "Cause"
  payload c := [c.code]
  decode bs := do
    Reader.exactly 1 bs
    Coded.decode "Self" (bs.headD 0)

end Cause

end UserPlane
