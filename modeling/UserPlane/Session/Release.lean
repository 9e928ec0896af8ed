/-
  UserPlane.Session.Release
  ─────────────────────────
  **GIVING BACK ALL THAT A SESSION HAS.**

  A release goes on past what fails and reports the first failure.
-/
import UserPlane.Session

namespace UserPlane

/-- A plane, and the first failure met so far. -/
structure Teardown where
  plane : Plane
  firstError : Option PlaneError := none
  deriving DecidableEq, Repr

namespace Teardown

/-- Goes on with one more removal, past a failure. -/
def attempt (t : Teardown) (f : Plane → Except PlaneError Plane) : Teardown :=
  match f t.plane with
  | .ok plane => { t with plane }
  | .error e => { t with firstError := t.firstError.or (some e) }

end Teardown

namespace Session

/-- The detections of the session's rules, each once. -/
def detections (s : Session) : List Detection :=
  (s.pdrs.values.map SessionPdr.detection).eraseDups

/-- Removes the session's rules from the plane. -/
def teardown (s : Session) (plane : Plane) : Teardown :=
  let t := s.detections.foldl (fun t d => t.attempt (·.deletePdr d)) { plane }
  let t := s.fars.values.foldl (fun t far => t.attempt (·.deleteFar far.slot)) t
  s.qers.values.foldl (fun t qer => t.attempt (·.deleteQer qer.slot)) t

/-- Gives back the addresses and tunnel ids that the session holds. -/
def releasePools (s : Session) (pools : Pools) : Pools :=
  (pools.releaseIp s.resourceKey).releaseTeid s.resourceKey

end Session

end UserPlane
