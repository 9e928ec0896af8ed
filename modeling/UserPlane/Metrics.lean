/-
  UserPlane.Metrics
  ─────────────────
  **COUNTS OF WHAT THE NODE DID.**

  Messages are counted by name, rejections by name and cause, and the time
  that handling took falls into buckets.  Counters have 64 bits: behind the
  greatest number comes zero.  They are read as numbers (`countOf`,
  `LatencyHistogram.count`).
-/
import UserPlane.Element.Cause
import UserPlane.Table

namespace UserPlane

/-! ## §1. Times. -/

/-- The upper bounds of the buckets in microseconds; the last has none. -/
def latencyBounds : List Nat := [10, 50, 100, 500, 1000, 5000, 10000]

/-- How often handling took how long. -/
structure LatencyHistogram where
  bucketCounters : List UInt64 := List.replicate 8 0
  counter : UInt64 := 0
  /-- All times together, up to what 64 bits can hold. -/
  sumMicros : Nat := 0
  deriving DecidableEq, Repr

namespace LatencyHistogram

/-- The greatest number of 64 bits. -/
def ceiling : Nat := 0xFFFFFFFFFFFFFFFF

/-- How many times fell into each bucket. -/
def buckets (h : LatencyHistogram) : List Nat := h.bucketCounters.map UInt64.toNat

/-- How many times there were. -/
def count (h : LatencyHistogram) : Nat := h.counter.toNat

/-- The bucket that a time falls into. -/
def bucketOf (micros : Nat) : Nat := latencyBounds.findIdx (micros ≤ ·)

/-- Counts one more time. -/
def observe (h : LatencyHistogram) (nanos : Nat) : LatencyHistogram :=
  let micros := min (nanos / 1000) ceiling
  { bucketCounters := h.bucketCounters.modify (bucketOf micros) (· + 1)
    counter := h.counter + 1
    sumMicros := min (h.sumMicros + micros) ceiling }

end LatencyHistogram

/-! ## §2. Counts. -/

/-- What was counted so far. -/
structure Metrics where
  rx : Table String UInt64 := .empty
  tx : Table String UInt64 := .empty
  rxErrors : Table (String × Cause) UInt64 := .empty
  latency : Table String LatencyHistogram := .empty
  associations : Nat := 0
  sessions : Nat := 0
  deriving DecidableEq, Repr

/-- The counter under a key; zero if nothing was counted. -/
def counterOf {κ : Type} [DecidableEq κ] (t : Table κ UInt64) (k : κ) : UInt64 :=
  (t.get? k).getD 0

/-- The count under a key. -/
def countOf {κ : Type} [DecidableEq κ] (t : Table κ UInt64) (k : κ) : Nat :=
  (counterOf t k).toNat

/-- Counts one more under a key. -/
def countUp {κ : Type} [DecidableEq κ] (t : Table κ UInt64) (k : κ) : Table κ UInt64 :=
  t.insert k (counterOf t k + 1)

namespace Metrics

/-- A message was received. -/
def received (m : Metrics) (name : String) : Metrics := { m with rx := countUp m.rx name }

/-- A message was sent. -/
def sent (m : Metrics) (name : String) : Metrics := { m with tx := countUp m.tx name }

/-- A message was rejected, or was a rejection. -/
def rejected (m : Metrics) (name : String) (cause : Cause) : Metrics :=
  { m with rxErrors := countUp m.rxErrors (name, cause) }

/-- A message was handled. -/
def handled (m : Metrics) (name : String) (nanos : Nat) : Metrics :=
  { m with latency :=
      m.latency.insert name (((m.latency.get? name).getD {}).observe nanos) }

/-- The name of the response to a kind of request. -/
def responseName (request : String) : Option String :=
  let cs := request.toList
  let ending := "Request".toList
  if cs.drop (cs.length - ending.length) = ending then
    some (String.ofList (cs.take (cs.length - ending.length) ++ "Response".toList))
  else none

/-- How many responses to a kind of request were sent. -/
def replyCount (m : Metrics) (request : String) : Nat :=
  match responseName request with
  | some name => countOf m.tx name
  | none => 0

end Metrics

end UserPlane
