/-
  UserPlane.Rule.Quality
  ──────────────────────
  **QOS ENFORCEMENT RULES, AS REQUESTED.**

  A QoS rule (QER) opens and closes the two directions, limits their bit rates
  and marks packets with the number of a QoS flow.
-/
import UserPlane.Element.RuleId
import UserPlane.Element.Treatment
import UserPlane.Wire.Body

namespace UserPlane

/-- A rule to be made. -/
structure CreateQer where
  qerId : QerId
  gateStatus : GateStatus
  maximumBitrate : Option Mbr := none
  qfi : Option Qfi := none
  deriving DecidableEq, Repr

instance : Body CreateQer where
  write r := .one r.qerId ++ .one r.gateStatus ++ .maybe r.maximumBitrate ++ .maybe r.qfi
  shape := CreateQer.mk <$> .required QerId <*> .required GateStatus <*> .optional Mbr
    <*> .optional Qfi

instance : Element CreateQer := Body.group 7 "CreateQER"

/-- What is to change in a rule. -/
structure UpdateQer where
  qerId : QerId
  gateStatus : Option GateStatus := none
  maximumBitrate : Option Mbr := none
  qfi : Option Qfi := none
  deriving DecidableEq, Repr

instance : Body UpdateQer where
  write r := .one r.qerId ++ .maybe r.gateStatus ++ .maybe r.maximumBitrate ++ .maybe r.qfi
  shape := UpdateQer.mk <$> .required QerId <*> .optional GateStatus <*> .optional Mbr
    <*> .optional Qfi

instance : Element UpdateQer := Body.group 14 "UpdateQER"

/-- A rule to be taken away. -/
structure RemoveQer where
  qerId : QerId
  deriving DecidableEq, Repr

instance : Body RemoveQer where
  write r := .one r.qerId
  shape := RemoveQer.mk <$> .required QerId

instance : Element RemoveQer := Body.group 18 "RemoveQER"

end UserPlane
