/-
  UserPlane.Proofs.Flow.Ports
  ───────────────────────────
  **WHICH PORTS THE ENDS OF A FLOW HAVE.**

  Ports that are written behind an address are those of the end, and an end
  without any has the ports that go with the destination: from port 1 on towards
  `assigned`, and every port otherwise.

  There is one exception.  The reader keeps no note of whether the ports of the
  source were written; it takes every port to mean that none were.  So towards
  `assigned` a source with `0-65535` written behind it has the ports from 1 on.

      FlowEnd.Gives        the ports that the words of an end write, if any
      Flow.Ends            the words of a text's ends, and their ports
      Flow.ports_of_ends   the ports of both ends
-/
import UserPlane.Proofs.Flow

namespace UserPlane

/-! ## §1. Ports of one end. -/

/-- The words of an end are an address alone, or an address and these ports. -/
inductive FlowEnd.Gives : List String → Option PortRange → Prop where
  | nothing {address : String} : Gives [address] none
  | ports {address word : String} {ports : PortRange} (h : ports.Written word.toList) :
    Gives [address, word] (some ports)

/-- The ports of an end that has none written, in a flow towards these words. -/
def PortRange.towards (destination : List String) : PortRange :=
  if destination.head? = some "assigned" then .assigned else .full

namespace FlowEnd

/-- `assigned` writes no network. -/
theorem not_written_assigned (network : IpNetwork) : ¬ network.Written "assigned".toList := by
  have hmem : 's' ∈ "assigned".toList := by decide
  exact Flow.not_written_of_mem hmem (by decide) (by decide) (by decide)

/-- A source's address alone stands for every port. -/
theorem Address.ports_source {token : String} {e : FlowEnd} (h : Address false token e) :
    e.ports = .full := by
  cases h with
  | any => rfl
  | assigned h => cases h
  | network h => rfl

/-- A destination's address alone stands for the ports that go with it. -/
theorem Address.ports_destination {token : String} {e : FlowEnd} (more : List String)
    (h : Address true token e) : e.ports = .towards (token :: more) := by
  unfold PortRange.towards
  rw [List.head?_cons]
  cases h with
  | any => rfl
  | assigned => rfl
  | @network _ network h =>
    have hne : ¬ some token = some "assigned" := by
      rintro ⟨⟩
      exact not_written_assigned network h
    rw [if_neg hne]

theorem Written.ports_source {ws : List String} {e : FlowEnd} (h : Written false ws e) :
    ∃ given, Gives ws given ∧ e.ports = given.getD .full := by
  cases h with
  | bare h => exact ⟨none, .nothing, h.ports_source⟩
  | withPorts h hports => exact ⟨_, .ports hports, rfl⟩

theorem Written.ports_destination {ws : List String} {e : FlowEnd} (h : Written true ws e) :
    ∃ given, Gives ws given ∧ e.ports = given.getD (.towards ws) := by
  cases h with
  | bare h => exact ⟨none, .nothing, h.ports_destination []⟩
  | withPorts h hports => exact ⟨_, .ports hports, rfl⟩

/-- The ports of a source, once it is known where the flow goes to. -/
theorem ports_towards {source : FlowEnd} {given : Option PortRange} (to_ : List String)
    (h : source.ports = given.getD .full) :
    (source.towards to_).ports =
      if given = some .full ∧ to_.head? = some "assigned" then .assigned
      else given.getD (.towards to_) := by
  unfold towards PortRange.towards
  by_cases hassigned : to_.head? = some "assigned"
  · -- the range alone decides, whether it was written or not
    cases given with
    | none =>
      have hfull : source.ports = .full := h
      simp [hassigned, hfull]
    | some ports =>
      have hports : source.ports = ports := h
      by_cases hfull : ports = .full <;> simp [hassigned, hports, hfull]
  · simp [hassigned, h]

/-- Words write no more than one range. -/
theorem Gives.unique {ws : List String} {given given' : Option PortRange} (h : Gives ws given)
    (h' : Gives ws given') : given = given' := by
  cases h with
  | nothing =>
    cases h'
    rfl
  | ports hports =>
    cases h' with
    | ports hports' =>
      have hread := Flow.ports?_eq_ok_iff.mpr hports
      rw [Flow.ports?_eq_ok_iff.mpr hports'] at hread
      cases hread
      rfl

/-- The source ends at the `to` behind it, which is no ports. -/
theorem Gives.split_unique {from_ from_' to_ to_' : List String} {given given' : Option PortRange}
    (h : Gives from_ given) (h' : Gives from_' given')
    (heq : from_ ++ "to" :: to_ = from_' ++ "to" :: to_') : from_ = from_' ∧ to_ = to_' := by
  cases h with
  | nothing =>
    cases h' with
    | nothing =>
      cases heq
      exact ⟨rfl, rfl⟩
    | ports hports =>
      cases heq
      exact absurd hports (Flow.not_written_to _)
  | ports hports =>
    cases h' with
    | nothing =>
      cases heq
      exact absurd hports (Flow.not_written_to _)
    | ports hports' =>
      cases heq
      exact ⟨rfl, rfl⟩

end FlowEnd

/-! ## §2. Ports of a flow. -/

namespace Flow

/-- The text's words are a description with these words for its ends, and these
ports written in them. -/
structure Ends (text : String) (from_ to_ : List String)
    (source destination : Option PortRange) : Prop where
  words : ∃ token, Parted text.toList
    (("permit" :: "out" :: token :: "from" :: (from_ ++ "to" :: to_)).map String.toList)
  source : FlowEnd.Gives from_ source
  destination : FlowEnd.Gives to_ destination

/-- A text has its ends in one way only. -/
theorem Ends.unique {text : String} {from_ from_' to_ to_' : List String}
    {source source' destination destination' : Option PortRange}
    (h : Ends text from_ to_ source destination) (h' : Ends text from_' to_' source' destination') :
    from_ = from_' ∧ to_ = to_' ∧ source = source' ∧ destination = destination' := by
  obtain ⟨token, hwords⟩ := h.words
  obtain ⟨token', hwords'⟩ := h'.words
  have heq := (words_eq_iff.mpr hwords).symm.trans (words_eq_iff.mpr hwords')
  simp only [List.cons.injEq, true_and] at heq
  obtain ⟨rfl, rfl⟩ := h.source.split_unique h'.source heq.2
  exact ⟨rfl, rfl, h.source.unique h'.source, h.destination.unique h'.destination⟩

/-- The flow that is read has the ports that are written at its ends, where any
are. -/
theorem exists_ends {text : String} {f : Flow} (h : ofText text = .ok f) :
    ∃ from_ to_ source destination, Ends text from_ to_ source destination
      ∧ f.destination.ports = destination.getD (.towards to_)
      ∧ f.source.ports =
        if source = some .full ∧ to_.head? = some "assigned" then .assigned
        else source.getD (.towards to_) := by
  have hdescribed := ofText_eq_ok_iff.mp h
  generalize hwords : words text = ws at hdescribed
  cases hdescribed with
  | @permit token protocol from_ to_ source destination _ hsource hdestination =>
    obtain ⟨given, hgiven, hports⟩ := hsource.ports_source
    obtain ⟨given', hgiven', hports'⟩ := hdestination.ports_destination
    exact ⟨from_, to_, given, given', ⟨⟨token, words_eq_iff.mp hwords⟩, hgiven, hgiven'⟩, hports',
      FlowEnd.ports_towards to_ hports⟩

/-- **The ports of a flow's ends.**  A text that is read as a flow has two ends,
with ports written at them or none.  Ports that are written are those of the end,
and an end without any has the ports that go with the destination; except that a
source with every port written is treated, towards `assigned`, as if it had none. -/
theorem ports_of_ends {text : String} {f : Flow} (h : ofText text = .ok f) :
    (∃ from_ to_ source destination, Ends text from_ to_ source destination)
    ∧ ∀ from_ to_ source destination, Ends text from_ to_ source destination →
      f.destination.ports = destination.getD (.towards to_)
      ∧ f.source.ports =
        if source = some .full ∧ to_.head? = some "assigned" then .assigned
        else source.getD (.towards to_) := by
  obtain ⟨from₀, to₀, source₀, destination₀, hends₀, hports⟩ := exists_ends h
  refine ⟨⟨from₀, to₀, source₀, destination₀, hends₀⟩, ?_⟩
  intro from_ to_ source destination hends
  obtain ⟨rfl, rfl, rfl, rfl⟩ := hends₀.unique hends
  exact hports

/-- Every port is written at a source, and the flow towards `assigned` has the
ports from 1 on there. -/
theorem ports_of_full_source : ∃ f,
    ofText "permit out ip from any 0-65535 to assigned" = .ok f
    ∧ Ends "permit out ip from any 0-65535 to assigned" ["any", "0-65535"] ["assigned"]
      (some .full) none
    ∧ f.source.ports = .assigned ∧ f.destination.ports = .assigned := by
  have hread : ofText "permit out ip from any 0-65535 to assigned"
      = .ok ⟨.ip, ⟨none, .assigned⟩, ⟨none, .assigned⟩⟩ := by decide +kernel
  have hports : ports? "0-65535" = .ok .full := by decide
  have hwords : words "permit out ip from any 0-65535 to assigned"
      = ["permit", "out", "ip", "from", "any", "0-65535", "to", "assigned"] := by decide +kernel
  have hends : Ends "permit out ip from any 0-65535 to assigned" ["any", "0-65535"] ["assigned"]
      (some .full) none :=
    ⟨⟨"ip", words_eq_iff.mp hwords⟩, .ports (ports?_eq_ok_iff.mp hports), .nothing⟩
  obtain ⟨hdestination, hsource⟩ := (ports_of_ends hread).2 _ _ _ _ hends
  exact ⟨_, hread, hends, hsource, hdestination⟩

end Flow

end UserPlane
