/-
  UserPlane.Element.RuleId
  ────────────────────────
  **THE NUMBERS OF RULES.**

  A session numbers its rules of each kind on its own: packet detection rules
  (PDR) in 16 bits, forwarding action rules (FAR) and QoS enforcement rules
  (QER) in 32.  A detection rule also has a precedence among its like.
-/
import UserPlane.Wire.Element

namespace UserPlane

/-- The number of a packet detection rule. -/
structure PdrId where
  ruleId : UInt16
  deriving DecidableEq, Repr

instance : Element PdrId where
  code := 56
  label := "PDR_ID"
  payload r := be16 r.ruleId
  decode bs := do
    Reader.exactly 2 bs
    return ⟨← (Reader.u16 "PDR ID").decode bs⟩

/-- How a detection rule ranks: the higher the number, the later it is tried. -/
structure Precedence where
  precedence : UInt32
  deriving DecidableEq, Repr

instance : Element Precedence where
  code := 29
  label := "Precedence"
  payload p := be32 p.precedence
  decode bs := do
    Reader.exactly 4 bs
    return ⟨← (Reader.u32 "Precedence").decode bs⟩

/-- The number of a forwarding action rule. -/
structure FarId where
  ruleId : UInt32
  deriving DecidableEq, Repr

instance : Element FarId where
  code := 108
  label := "FAR_ID"
  payload r := be32 r.ruleId
  decode bs := do
    Reader.exactly 4 bs
    return ⟨← (Reader.u32 "FAR ID").decode bs⟩

/-- The number of a QoS enforcement rule. -/
structure QerId where
  ruleId : UInt32
  deriving DecidableEq, Repr

instance : Element QerId where
  code := 109
  label := "QER_ID"
  payload r := be32 r.ruleId
  decode bs := do
    Reader.exactly 4 bs
    return ⟨← (Reader.u32 "QER ID").decode bs⟩

end UserPlane
