/-
  UserPlane.Element.Interface
  ───────────────────────────
  **WHERE PACKETS COME FROM AND GO TO.**

  An interface is the low half of one octet; the high half is spare.  A
  network instance is a name whose octets are not looked into.
-/
import UserPlane.Wire.Coded
import UserPlane.Wire.Element

namespace UserPlane

/-- The side a packet comes from. -/
inductive SourceInterface where
  | access | core | sgiLan | cpFunction | internal5gVn
  deriving DecidableEq, Repr

instance : Coded SourceInterface where
  all := [.access, .core, .sgiLan, .cpFunction, .internal5gVn]
  code
    | .access => 0
    | .core => 1
    | .sgiLan => 2
    | .cpFunction => 3
    | .internal5gVn => 4
  name
    | .access => "AccessSide"
    | .core => "CoreSide"
    | .sgiLan => "SGi_LAN_N6_LAN"
    | .cpFunction => "CP_Function"
    | .internal5gVn => "_5G_VN_internal"
  find_code a := by cases a <;> rfl

instance : Element SourceInterface where
  code := 20
  label := "SourceInterface"
  payload i := [Coded.code i]
  decode bs := do
    let octet ← (Reader.u8 "Source Interface").decode bs
    Coded.decode "Self" (octet &&& 0x0F)

/-- The side a packet goes to. -/
inductive DestinationInterface where
  | access | core | sgiLan | cpFunction | liFunction | internal5gVn
  deriving DecidableEq, Repr

instance : Coded DestinationInterface where
  all := [.access, .core, .sgiLan, .cpFunction, .liFunction, .internal5gVn]
  code
    | .access => 0
    | .core => 1
    | .sgiLan => 2
    | .cpFunction => 3
    | .liFunction => 4
    | .internal5gVn => 5
  name
    | .access => "AccessSide"
    | .core => "CoreSide"
    | .sgiLan => "SGi_LAN_N6_LAN"
    | .cpFunction => "CP_Function"
    | .liFunction => "LI_Function"
    | .internal5gVn => "_5G_VN_internal"
  find_code a := by cases a <;> rfl

instance : Element DestinationInterface where
  code := 42
  label := "DestinationInterface"
  payload i := [Coded.code i]
  decode bs := do
    let octet ← (Reader.u8 "Destination Interface").decode bs
    Coded.decode "Self" (octet &&& 0x0F)

/-- The name of a network. -/
structure NetworkInstance where
  name : Octets
  deriving DecidableEq, Repr

instance : Element NetworkInstance where
  code := 22
  label := "NetworkInstance"
  payload n := n.name
  decode bs := .ok ⟨bs⟩

end UserPlane
