import L2tpns.Pppoe.Discovery
import L2tpns.Server.Tenancy

/-! # The end of a PPPoE session

A PADT is to end the session of the client that sent it, and no other. The server reads the
number of the session with its bytes exchanged, and does not look whose session it is. A PADT
ends what it should exactly if the number that is read is that of the client's session too, or
is of no PPPoE session where the client has none of the number that it sent
(`L2tpns.Pppoe.padt_ends_iff`).
-/

namespace L2tpns.Pppoe

open Foundation
open Avp (Memory ntohs writeBytes)
open Server (State maxSession sessionshutdown tunnelIdPppoe)

/-- The session number of a frame in network order. -/
def namedSid (memory : Memory) : Nat := ntohs memory 16

/-- A session of the PPPoE server that is in use. -/
def IsPppoe (st : State) (s : Nat) : Prop :=
  s ≠ 0 ∧ s < maxSession ∧ (st.session s).tunnel = tunnelIdPppoe ∧ (st.session s).opened ≠ 0

instance (st : State) (s : Nat) : Decidable (IsPppoe st s) :=
  inferInstanceAs (Decidable (_ ∧ _))

/-- A frame that is accepted and addressed to the server alone. -/
def Addressed (config : Config) (memory : Memory) (size : Nat) : Prop :=
  Accepts config memory size ∧ hDest memory ≠ bcAddr

instance (config : Config) (memory : Memory) (size : Nat) :
    Decidable (Addressed config memory size) :=
  inferInstanceAs (Decidable (_ ∧ _))

/-- The session that a frame names is one of its sender. -/
def NamesOwn (server : Concentrator) (memory : Memory) : Prop :=
  IsPppoe server.st (namedSid memory) ∧ server.srcHwaddr (namedSid memory) = hSource memory

instance (server : Concentrator) (memory : Memory) : Decidable (NamesOwn server memory) :=
  inferInstanceAs (Decidable (_ ∧ _))

/-- A PADT shuts down the session of its sender that it names, and changes no other; where there
is none nothing changes. -/
def EndsOwn (server : Concentrator) (memory : Memory) (size : Nat) (handled : Handled) : Prop :=
  if Addressed server.config memory size ∧ NamesOwn server memory then
    handled.shut = some (namedSid memory) ∧
      handled.server.st =
        sessionshutdown server.st (namedSid memory) "Client shutdown" 3 0 none ∧
      ∀ x, x ≠ namedSid memory → handled.server.st.session x = server.st.session x
  else handled.shut = none ∧ handled.server.st.session = server.st.session

variable {server : Concentrator} {memory : Memory} {size : Nat}

theorem processPppoeDisc_padt (master : server.config.clusterIamMaster)
    (padt : hdrCode memory = codePadt) :
    processPppoeDisc server memory size =
      if Accepts server.config memory size then pppoeRecvPadt server memory
      else discarded server := by
  have noPadi : ¬ codePadt = codePadi := by decide
  have noPadr : ¬ codePadt = codePadr := by decide
  rw [processPppoeDisc, if_neg (by simp [master])]
  by_cases accepted : Accepts server.config memory size
  · simp only [padt, accepted, not_true_eq_false, if_false, noPadi, noPadr, if_true]
  · simp only [accepted, not_false_eq_true, if_true, if_false]

/-- The session that is shut down is the one with the number as it is read. -/
theorem padt_shut (master : server.config.clusterIamMaster) (padt : hdrCode memory = codePadt) :
    (Addressed server.config memory size ∧ IsPppoe server.st (hdrSid memory) ∧
        (processPppoeDisc server memory size).shut = some (hdrSid memory) ∧
        (processPppoeDisc server memory size).server.st =
          sessionshutdown server.st (hdrSid memory) "Client shutdown" 3 0 none) ∨
      (¬ (Addressed server.config memory size ∧ IsPppoe server.st (hdrSid memory)) ∧
        (processPppoeDisc server memory size).shut = none ∧
        (processPppoeDisc server memory size).server.st = server.st) := by
  rw [processPppoeDisc_padt master padt]
  by_cases accepted : Accepts server.config memory size
  · rw [if_pos accepted, pppoeRecvPadt]
    by_cases broadcast : hDest memory = bcAddr
    · rw [if_pos broadcast]
      exact .inr ⟨fun both => both.1.2 broadcast, rfl, rfl⟩
    · rw [if_neg broadcast]
      by_cases found : hdrSid memory ≠ 0 ∧ hdrSid memory < maxSession ∧
          (server.st.session (hdrSid memory)).tunnel = tunnelIdPppoe
      · rw [if_pos found]
        by_cases closed : (server.st.session (hdrSid memory)).opened = 0
        · refine .inr ⟨fun both => both.2.2.2.2 closed, if_pos closed, ?_⟩
          change sessionshutdown server.st (hdrSid memory) _ _ _ _ = server.st
          rw [sessionshutdown, if_pos closed]
        · exact .inl ⟨⟨accepted, broadcast⟩, ⟨found.1, found.2.1, found.2.2, closed⟩,
            if_neg closed, rfl⟩
      · rw [if_neg found]
        exact .inr ⟨fun both => found ⟨both.2.1, both.2.2.1, both.2.2.2.1⟩, rfl, rfl⟩
  · rw [if_neg accepted]
    exact .inr ⟨fun both => accepted both.1.1, rfl, rfl⟩

/-- **A PADT** that a master is given ends the session of its sender that it names, and no other,
exactly if it is not addressed to the server, or names a session of its sender with a number
that is the same with its bytes exchanged, or names none and no PPPoE session has the number
with its bytes exchanged. -/
theorem padt_ends_iff (server : Concentrator) (memory : Memory) (size : Nat)
    (master : server.config.clusterIamMaster) (padt : hdrCode memory = codePadt) :
    EndsOwn server memory size (processPppoeDisc server memory size) ↔
      ¬ Addressed server.config memory size ∨
        (NamesOwn server memory ∧ hdrSid memory = namedSid memory) ∨
        (¬ NamesOwn server memory ∧ ¬ IsPppoe server.st (hdrSid memory)) := by
  have shut := @padt_shut server memory size master padt
  generalize processPppoeDisc server memory size = handled at shut
  rw [EndsOwn]
  by_cases addressed : Addressed server.config memory size
  · by_cases own : NamesOwn server memory
    · rw [if_pos ⟨addressed, own⟩]
      simp only [addressed, own, not_true_eq_false, false_or, true_and, false_and, or_false]
      rcases shut with ⟨-, -, which, next⟩ | ⟨none, which, next⟩
      · constructor
        · rintro ⟨named, -, -⟩
          exact Option.some.inj (which.symm.trans named)
        · intro same
          rw [same] at which next
          refine ⟨which, next, fun x other => ?_⟩
          rw [next]
          exact (Server.sessionshutdown_only _ _ _ _ _).others x other
      · constructor
        · rintro ⟨named, -, -⟩
          exact nomatch which.symm.trans named
        · intro same
          exact absurd ⟨addressed, same ▸ own.1⟩ none
    · rw [if_neg fun both => own both.2]
      simp only [addressed, own, not_true_eq_false, not_false_eq_true, false_or, false_and,
        true_and]
      rcases shut with ⟨-, found, which, next⟩ | ⟨none, which, next⟩
      · exact ⟨fun ends => absurd (which.symm.trans ends.1) nofun, fun free => absurd found free⟩
      · exact ⟨fun _ found => none ⟨addressed, found⟩, fun _ => ⟨which, congrArg _ next⟩⟩
  · rw [if_neg fun both => addressed both.1]
    rcases shut with ⟨both, -⟩ | ⟨-, which, next⟩
    · exact absurd both addressed
    · exact ⟨fun _ => .inl addressed, fun _ => ⟨which, congrArg _ next⟩⟩

/-- A master with names of one letter. -/
def plainConfig : Config where
  clusterIamMaster := true
  pppoeHwaddr := Vector.replicate 6 0xBB
  pppoeAcName := [97]
  pppoeServiceName := []
  pppoeOnlyEqualSvcName := false
  l2tpSecret := []
  md5 := fun _ => Vector.replicate 16 0
  acName_short := by decide
  serviceName_short := by decide

/-- The server when it starts. -/
def booted : Concentrator where
  config := plainConfig
  st := State.start .zero (fun _ => .zero) 0 0 1
  srcHwaddr := fun _ => Vector.replicate 6 0

/-- The server after a PADR of the client with address 22:22:22:22:22:22. -/
def firstOpened : Concentrator := openFor booted (Vector.replicate 6 0x22)

/-- A PADT of a client at `source`; `high` and `low` are the bytes of the session number. -/
def padtFrame (source high low : UInt8) : Memory :=
  writeBytes (fun _ => 0) 0
    (List.replicate 6 0xBB ++ List.replicate 6 source ++
      [0x88, 0x63, 0x11, codePadt, high, low, 0, 0])

/-- A PADT for a session that is not there leaves the first one as it is. -/
theorem padt_ends_none : EndsOwn firstOpened (padtFrame 0x22 0 2) 20
    (processPppoeDisc firstOpened (padtFrame 0x22 0 2) 20) :=
  (padt_ends_iff firstOpened (padtFrame 0x22 0 2) 20 rfl (by decide)).mpr
    (.inr (.inr ⟨by decide, by decide⟩))

/-- The PADT of the first client for its own session ends nothing, and that of another client for
session 256 ends it. -/
theorem padt_misdirected :
    ¬ EndsOwn firstOpened (padtFrame 0x22 0 1) 20
        (processPppoeDisc firstOpened (padtFrame 0x22 0 1) 20) ∧
      ¬ EndsOwn firstOpened (padtFrame 0x44 1 0) 20
        (processPppoeDisc firstOpened (padtFrame 0x44 1 0) 20) := by
  constructor
  · have shut := @padt_shut firstOpened (padtFrame 0x22 0 1) 20 rfl (by decide)
    rcases shut with ⟨-, found, -⟩ | ⟨-, none, -⟩
    · exact absurd found (by decide)
    · rw [EndsOwn, if_pos (by decide), none]
      exact fun ends => nomatch ends.1
  · have shut := @padt_shut firstOpened (padtFrame 0x44 1 0) 20 rfl (by decide)
    rcases shut with ⟨-, -, which, -⟩ | ⟨free, -⟩
    · rw [EndsOwn, if_neg (by decide), which]
      exact fun ends => nomatch ends.1
    · exact absurd (by decide) free

end L2tpns.Pppoe
