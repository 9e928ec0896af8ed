/-
  UserPlane.Proofs.Rule.Rereading
  ───────────────────────────────
  **REQUESTS ABOUT RULES CAN BE WRITTEN AGAIN AS THEY WERE READ.**

  What a request about a rule holds is what its table of fields says
  (`Tabled.found_of_decode`).  It is well formed, because the values in it are
  (`SoundElement`).  It is written in no more octets than it was read from,
  because what it keeps was paid for element by element (`Element.Compact`);
  only where an action was sent as one octet, it takes one more.
-/
import UserPlane.Proofs.Element.Rereading
import UserPlane.Proofs.Message.Fields
import UserPlane.Proofs.Rule.RoundTrip

namespace UserPlane

/-! ## §1. Detection rules. -/

instance : SoundElement Pdi where
  wellFormed bs p h := by
    obtain ⟨-, htunnel, -, haddress, -⟩ := Tabled.found_of_decode h
    exact ⟨wellFormed_of_lastOf htunnel, wellFormed_of_lastOf haddress⟩

instance : Element.Compact Pdi 0 := .group 2 "PDI" fun bs p h => by
  obtain ⟨hside, htunnel, hnetwork, haddress, hfilter, hflow⟩ := Tabled.found_of_decode h
  exact (Drawn.one hside).append (.last htunnel) |>.append (.last hnetwork)
    |>.append (.last haddress) |>.append (.first hfilter) |>.append (.last hflow) |>.size_le

instance : SoundElement CreatePdr where
  wellFormed bs r h := by
    obtain ⟨-, -, hpdi, -⟩ := Tabled.found_of_decode h
    exact (readFrom_of_lastOf hpdi).wellFormed

instance : Element.Compact CreatePdr 0 := .group 1 "CreatePDR" fun bs r h => by
  obtain ⟨hid, hprecedence, hpdi, hremoval, hfar, hqer⟩ := Tabled.found_of_decode h
  exact (Drawn.one hid).append (.last hprecedence) |>.append (.one hpdi)
    |>.append (.last hremoval) |>.append (.last hfar) |>.append (.first hqer) |>.size_le

instance : SoundElement UpdatePdr where
  wellFormed bs r h := by
    obtain ⟨-, -, -, hpdi, -⟩ := Tabled.found_of_decode h
    exact wellFormed_of_lastOf hpdi

instance : Element.Compact UpdatePdr 0 := .group 9 "UpdatePDR" fun bs r h => by
  obtain ⟨hid, hremoval, hprecedence, hpdi, hfar, hqer⟩ := Tabled.found_of_decode h
  exact (Drawn.one hid).append (.last hremoval) |>.append (.last hprecedence)
    |>.append (.last hpdi) |>.append (.last hfar) |>.append (.first hqer) |>.size_le

instance : Element.Compact RemovePdr 0 := .group 15 "RemovePDR" fun _ _ h =>
  (Drawn.one (Tabled.found_of_decode h)).size_le

instance : SoundElement CreatedPdr where
  wellFormed bs r h := by
    obtain ⟨-, htunnel, haddress⟩ := Tabled.found_of_decode h
    exact ⟨wellFormed_of_lastOf htunnel, wellFormed_of_lastOf haddress⟩

instance : Element.Compact CreatedPdr 0 := .group 8 "CreatedPDR" fun bs r h => by
  obtain ⟨hid, htunnel, haddress⟩ := Tabled.found_of_decode h
  exact (Drawn.one hid).append (.last htunnel) |>.append (.last haddress) |>.size_le

/-! ## §2. Forwarding rules. -/

instance : SoundElement ForwardingParameters where
  wellFormed bs p h := by
    obtain ⟨-, -, hheader, -⟩ := Tabled.found_of_decode h
    exact wellFormed_of_lastOf hheader

instance : Element.Compact ForwardingParameters 0 :=
  .group 4 "ForwardingParameters" fun bs p h => by
    obtain ⟨hside, hnetwork, hheader, hmarking⟩ := Tabled.found_of_decode h
    exact (Drawn.one hside).append (.last hnetwork) |>.append (.last hheader)
      |>.append (.last hmarking) |>.size_le

instance : SoundElement UpdateForwardingParameters where
  wellFormed bs p h := by
    obtain ⟨-, -, hheader, -⟩ := Tabled.found_of_decode h
    exact wellFormed_of_lastOf hheader

instance : Element.Compact UpdateForwardingParameters 0 :=
  .group 11 "UpdateForwardingParameters" fun bs p h => by
    obtain ⟨hside, hnetwork, hheader, hmarking⟩ := Tabled.found_of_decode h
    exact (Drawn.last hside).append (.last hnetwork) |>.append (.last hheader)
      |>.append (.last hmarking) |>.size_le

instance : SoundElement CreateFar where
  wellFormed bs r h := by
    obtain ⟨-, -, hparameters⟩ := Tabled.found_of_decode h
    exact wellFormed_of_lastOf hparameters

instance : Element.Compact CreateFar 1 := .group 3 "CreateFAR" fun bs r h => by
  obtain ⟨hid, haction, hparameters⟩ := Tabled.found_of_decode h
  exact (Drawn.one hid).append (.one haction) |>.append (.last hparameters) |>.size_le

instance : SoundElement UpdateFar where
  wellFormed bs r h := by
    obtain ⟨-, -, hparameters⟩ := Tabled.found_of_decode h
    exact wellFormed_of_lastOf hparameters

instance : Element.Compact UpdateFar 1 := .group 10 "UpdateFAR" fun bs r h => by
  obtain ⟨hid, haction, hparameters⟩ := Tabled.found_of_decode h
  exact (Drawn.one hid).append (.last haction) |>.append (.last hparameters) |>.size_le

instance : Element.Compact RemoveFar 0 := .group 16 "RemoveFAR" fun _ _ h =>
  (Drawn.one (Tabled.found_of_decode h)).size_le

/-! ## §3. QoS rules. -/

instance : SoundElement CreateQer where
  wellFormed bs r h := by
    obtain ⟨-, -, hrate, -⟩ := Tabled.found_of_decode h
    exact wellFormed_of_lastOf hrate

instance : Element.Compact CreateQer 0 := .group 7 "CreateQER" fun bs r h => by
  obtain ⟨hid, hgate, hrate, hflow⟩ := Tabled.found_of_decode h
  exact (Drawn.one hid).append (.one hgate) |>.append (.last hrate) |>.append (.last hflow)
    |>.size_le

instance : SoundElement UpdateQer where
  wellFormed bs r h := by
    obtain ⟨-, -, hrate, -⟩ := Tabled.found_of_decode h
    exact wellFormed_of_lastOf hrate

instance : Element.Compact UpdateQer 0 := .group 14 "UpdateQER" fun bs r h => by
  obtain ⟨hid, hgate, hrate, hflow⟩ := Tabled.found_of_decode h
  exact (Drawn.one hid).append (.last hgate) |>.append (.last hrate) |>.append (.last hflow)
    |>.size_le

instance : Element.Compact RemoveQer 0 := .group 18 "RemoveQER" fun _ _ h =>
  (Drawn.one (Tabled.found_of_decode h)).size_le

end UserPlane
