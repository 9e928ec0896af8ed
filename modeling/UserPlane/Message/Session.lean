/-
  UserPlane.Message.Session
  ─────────────────────────
  **MESSAGES ABOUT SESSIONS.**

  A session is established with its first rules, modified rule by rule, and
  deleted.
-/
import UserPlane.Element.Cause
import UserPlane.Element.NodeFacts
import UserPlane.Element.NodeId
import UserPlane.Rule.Detection
import UserPlane.Rule.Forwarding
import UserPlane.Rule.Quality

namespace UserPlane

/-! ## §1. Establishment. -/

/-- Asks for a session with these rules. -/
structure SessionEstablishmentRequest where
  nodeId : Option NodeId
  cpFSeid : Option FSeid
  createPdr : List CreatePdr
  createFar : List CreateFar
  createQer : List CreateQer
  deriving DecidableEq, Repr

instance : Body SessionEstablishmentRequest where
  write m := .maybe m.nodeId ++ .maybe m.cpFSeid ++ .each m.createPdr ++ .each m.createFar
    ++ .each m.createQer
  shape := SessionEstablishmentRequest.mk <$> .lenient NodeId <*> .lenient FSeid
    <*> .repeated CreatePdr <*> .repeated CreateFar <*> .repeated CreateQer

/-- Grants or refuses a session. -/
structure SessionEstablishmentResponse where
  nodeId : NodeId
  cause : Cause
  upFSeid : Option FSeid
  createdPdr : List CreatedPdr
  deriving DecidableEq, Repr

instance : Body SessionEstablishmentResponse where
  write m := .one m.nodeId ++ .one m.cause ++ .maybe m.upFSeid ++ .each m.createdPdr
  shape := SessionEstablishmentResponse.mk <$> .required NodeId <*> .required Cause
    <*> .optional FSeid <*> .repeated CreatedPdr

/-! ## §2. Modification. -/

/-- Asks for changes to the rules of a session. -/
structure SessionModificationRequest where
  cpFSeid : Option FSeid := none
  removePdr : List RemovePdr := []
  removeFar : List RemoveFar := []
  removeQer : List RemoveQer := []
  createPdr : List CreatePdr := []
  createFar : List CreateFar := []
  createQer : List CreateQer := []
  updatePdr : List UpdatePdr := []
  updateFar : List UpdateFar := []
  updateQer : List UpdateQer := []
  deriving DecidableEq, Repr

instance : Body SessionModificationRequest where
  write m := .maybe m.cpFSeid ++ .each m.removePdr ++ .each m.removeFar ++ .each m.removeQer
    ++ .each m.createPdr ++ .each m.createFar ++ .each m.createQer ++ .each m.updatePdr
    ++ .each m.updateFar ++ .each m.updateQer
  shape := SessionModificationRequest.mk <$> .optional FSeid <*> .repeated RemovePdr
    <*> .repeated RemoveFar <*> .repeated RemoveQer <*> .repeated CreatePdr
    <*> .repeated CreateFar <*> .repeated CreateQer <*> .repeated UpdatePdr
    <*> .repeated UpdateFar <*> .repeated UpdateQer

/-- Answers a modification. -/
structure SessionModificationResponse where
  cause : Cause
  createdPdr : List CreatedPdr
  deriving DecidableEq, Repr

instance : Body SessionModificationResponse where
  write m := .one m.cause ++ .each m.createdPdr
  shape := SessionModificationResponse.mk <$> .required Cause <*> .repeated CreatedPdr

/-! ## §3. Deletion. -/

/-- Asks for a session to be deleted. -/
structure SessionDeletionRequest where
  deriving DecidableEq, Repr

instance : Body SessionDeletionRequest where
  write _ := .empty
  shape := pure {}

/-- Answers a deletion. -/
structure SessionDeletionResponse where
  cause : Cause
  deriving DecidableEq, Repr

instance : Body SessionDeletionResponse where
  write m := .one m.cause
  shape := SessionDeletionResponse.mk <$> .required Cause

end UserPlane
