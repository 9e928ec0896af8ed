/-
  UserPlane.Wire.Fault
  ────────────────────
  **WHY OCTETS ARE NOT WHAT THEY SHOULD BE.**

  One constructor per cause; `WireFault.message` is the only place that puts a
  cause into words.
-/
import UserPlane.Text.Utf8

namespace UserPlane

/-- Why octets could not be read as the thing they should hold. -/
inductive WireFault where
  /-- The octets end inside a field. -/
  | truncated (field : String) (expected got : Nat)
  /-- A value of fixed length has another length. -/
  | wrongLength (expected got : Nat)
  /-- A value is shorter than the least length of its kind. -/
  | tooShort (least got : Nat)
  /-- A value that may have one octet or two has another length. -/
  | notOneOrTwo (got : Nat)
  /-- An enumerated octet has no meaning. -/
  | unknownCode (kind : String) (code : Nat)
  /-- A name has no octets. -/
  | emptyName
  /-- A text is not UTF-8. -/
  | notUtf8 (fault : Utf8Fault)
  /-- A text is longer than what is left. -/
  | textOverrun (length remaining : Nat)
  /-- Fewer octets are left than the header of an element takes. -/
  | elementHeader (remaining : Nat)
  /-- An element is longer than what is left. -/
  | elementOverrun (type length remaining : Nat)
  /-- An element that has to be there is not. -/
  | missing (element : String)
  /-- The message is of another protocol version. -/
  | unsupportedVersion (version : Nat)
  /-- A message is longer than what is left. -/
  | messageOverrun (length remaining : Nat)
  deriving DecidableEq, Repr

/-- The cause in words. -/
def WireFault.message : WireFault → String
  | .truncated field expected got =>
    s!"Truncated {field}: expect {expected} octets, got {got}"
  | .wrongLength expected got => s!"Expect length {expected}, got {got}"
  | .tooShort least got => s!"Expect length at least {least}, got {got}"
  | .notOneOrTwo got => s!"Expect length 1 or 2, got {got}"
  | .unknownCode kind code => s!"FromPrimitive error {kind} from {code}"
  | .emptyName => "Empty FQDN Node ID"
  | .notUtf8 fault => s!"Flow Description is not UTF-8: {fault.message}"
  | .textOverrun length remaining =>
    s!"Flow Description is of length {length}, but remaining octets is {remaining}"
  | .elementHeader remaining => s!"Truncated IE header, remaining octets is {remaining}"
  | .elementOverrun type length remaining =>
    s!"IE {type} is of length {length}, but remaining octects is {remaining}"
  | .missing element => s!"Missing mandatory field {element}"
  | .unsupportedVersion version => s!"Unsupported PFCP version {version}"
  | .messageOverrun length remaining =>
    s!"Message is of length {length}, but remaining octects is {remaining}"

/-- What reading octets comes to. -/
abbrev Decoded := Except WireFault

end UserPlane
