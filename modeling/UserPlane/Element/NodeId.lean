/-
  UserPlane.Element.NodeId
  ────────────────────────
  **NODE IDS: WHO A NODE IS.**

  A node names itself by an address or by a domain name.  A domain name is a
  run of labels, each an octet of length and that many octets of text, without
  the empty label at the end:

      NodeId.ofText   the id that a text writes: an address if it is one
      NodeId.text     the id in writing

  A domain name with a label cut short is still shown, the last label being
  whatever is left.
-/
import UserPlane.Address.Reading
import UserPlane.Address.Text
import UserPlane.Text.Words
import UserPlane.Wire.Coded
import UserPlane.Wire.Element

namespace UserPlane

/-- By what a node is named. -/
inductive NodeIdKind where
  | ipv4 | ipv6 | fqdn
  deriving DecidableEq, Repr

instance : Coded NodeIdKind where
  all := [.ipv4, .ipv6, .fqdn]
  code
    | .ipv4 => 0
    | .ipv6 => 1
    | .fqdn => 2
  name
    | .ipv4 => "IPV4"
    | .ipv6 => "IPV6"
    | .fqdn => "FQDN"
  find_code a := by cases a <;> rfl

/-- A node's name: what kind it is of, and its octets. -/
structure NodeId where
  kind : NodeIdKind
  octets : Octets
  deriving DecidableEq, Repr

/-! ## §1. Domain names. -/

/-- One label: its length and its first 63 octets. -/
def labelOctets (label : String) : Octets :=
  let bs := (Utf8.encode label).take 63
  UInt8.ofNat bs.length :: bs

/-- The octets of the labels of a domain name. -/
def splitLabels : Octets → List Octets
  | [] => []
  | n :: rest => rest.take n.toNat :: splitLabels (rest.drop n.toNat)
termination_by bs => bs.length
decreasing_by
  simp only [List.length_drop, List.length_cons]
  omega

/-- A text without the points at its end. -/
def dropTrailingPoints (cs : List Char) : List Char :=
  (cs.reverse.dropWhile (· = '.')).reverse

/-- The labels of a domain name in writing. -/
def labelsOf (name : String) : List String :=
  (splitAll '.' (dropTrailingPoints name.toList)).map String.ofList

namespace NodeId

/-! ## §2. Ids and their writing. -/

/-- The id of a node named by its address. -/
def ofIp : Ip → NodeId
  | .v4 a => ⟨.ipv4, a.octets⟩
  | .v6 a => ⟨.ipv6, a.octets⟩

/-- The id of a node named by a domain name; a label keeps 63 octets. -/
def ofFqdn (name : String) : NodeId := ⟨.fqdn, (labelsOf name).flatMap labelOctets⟩

/-- The id that a text writes: an address if it is one, else a domain name. -/
def ofText (s : String) : NodeId :=
  match Ip.ofText? s.toList with
  | some ip => ofIp ip
  | none => ofFqdn s

/-- The address that names the node. -/
def toIp (n : NodeId) : Option Ip :=
  match n.kind with
  | .ipv4 => if n.octets.length = 4 then some (.v4 (.ofOctets n.octets)) else none
  | .ipv6 => if n.octets.length = 16 then some (.v6 (.ofOctets n.octets)) else none
  | .fqdn => none

/-- The id in writing. -/
def text (n : NodeId) : String :=
  match n.toIp with
  | some ip => ip.text
  | none => String.intercalate "." ((splitLabels n.octets).map Utf8.lossy)

@[simp] theorem toIp_ofIp (ip : Ip) : (ofIp ip).toIp = some ip := by
  cases ip <;> simp [ofIp, toIp]

@[simp] theorem text_ofIp (ip : Ip) : (ofIp ip).text = ip.text := by
  simp [text]

/-- Whether the octets are of the length that their kind asks for. -/
def lengthOk (n : NodeId) : Bool :=
  match n.kind with
  | .ipv4 => n.octets.length == 4
  | .ipv6 => n.octets.length == 16
  | .fqdn => !n.octets.isEmpty

/-- Reads an id: the low half of the first octet is its kind. -/
def read (bs : Octets) : Decoded NodeId := do
  let (first, octets) ← (Reader.u8 "Node ID type").run bs
  let kind ← Coded.decode "NodeIdType" (first &&& 0x0F)
  match kind with
  | .ipv4 => Reader.exactly 4 octets
  | .ipv6 => Reader.exactly 16 octets
  | .fqdn => if octets.isEmpty then .error .emptyName else .ok ()
  return ⟨kind, octets⟩

instance : Element NodeId where
  code := 60
  label := "NodeID"
  payload n := Coded.code n.kind :: n.octets
  decode := read

end NodeId

end UserPlane
