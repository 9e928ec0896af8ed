/-
  UserPlane.Element.SdfFilter
  ───────────────────────────
  **FILTERS FOR SERVICE DATA FLOWS.**

  A filter has up to five parts, each announced by a flag; the flags are not
  kept but follow from the parts that are there.  Behind the flags comes a
  spare octet.
-/
import UserPlane.BitField
import UserPlane.Wire.Element

namespace UserPlane

/-- Which packets belong to a flow. -/
structure SdfFilter where
  flowDescription : Option String := none
  tosTrafficClass : Option UInt16 := none
  securityParameterIndex : Option UInt32 := none
  flowLabel : Option (UInt8 × UInt8 × UInt8) := none
  filterId : Option UInt32 := none
  deriving DecidableEq, Repr

namespace SdfFilter

/-- A flow description is there. -/
def fd : BitField := .flag "FD" 0

/-- A type of service or traffic class is there. -/
def ttc : BitField := .flag "TTC" 1

/-- A security parameter index is there. -/
def spi : BitField := .flag "SPI" 2

/-- A flow label is there. -/
def fl : BitField := .flag "FL" 3

/-- The filter has a number. -/
def bid : BitField := .flag "BID" 4

/-- The named flags. -/
def fields : List BitField := [fd, ttc, spi, fl, bid]

/-- The flags that the parts of a filter make. -/
def flags (f : SdfFilter) : Nat :=
  bid.set (fl.set (spi.set (ttc.set (fd.set 0 f.flowDescription.isSome.toNat)
    f.tosTrafficClass.isSome.toNat) f.securityParameterIndex.isSome.toNat)
    f.flowLabel.isSome.toNat) f.filterId.isSome.toNat

/-- The filter of a flow description. -/
def ofFlowDescription (s : String) : SdfFilter := { flowDescription := some s }

/-- The filter in octets. -/
def octets (f : SdfFilter) : Octets :=
  UInt8.ofNat f.flags :: 0 :: optionalBytes textOctets f.flowDescription
    ++ optionalBytes be16 f.tosTrafficClass ++ optionalBytes be32 f.securityParameterIndex
    ++ optionalBytes octets3 f.flowLabel ++ optionalBytes be32 f.filterId

instance : Element SdfFilter where
  code := 23
  label := "SDFFilter"
  payload := octets
  fits f := lengthFits f.octets.length
  decode := Reader.decode do
    let flags := ((← Reader.take 2 "SDF Filter flags").headD 0).toNat
    let flowDescription ←
      Reader.present (fd.isSet flags) (Reader.text "Flow Description length")
    let tosTrafficClass ← Reader.present (ttc.isSet flags) (Reader.u16 "ToS Traffic Class")
    let securityParameterIndex ←
      Reader.present (spi.isSet flags) (Reader.u32 "Security Parameter Index")
    let flowLabel ← Reader.present (fl.isSet flags) (Reader.three "Flow Label")
    let filterId ← Reader.present (bid.isSet flags) (Reader.u32 "SDF Filter ID")
    return { flowDescription, tosTrafficClass, securityParameterIndex, flowLabel, filterId }

end SdfFilter

end UserPlane
