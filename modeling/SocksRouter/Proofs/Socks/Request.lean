import Mathlib.Data.List.Basic
import SocksRouter.Socks.Request
import SocksRouter.Proofs.Socks.Protocol

/-!
# Reading what a client writes

The server's side of the handshake agrees on a method exactly when it has heard a greeting
(`negotiate_cases`), and gives a request with a destination exactly when it has heard one
(`reads_request`). Meanwhile it says at most two bytes, which is less than a reply. What it has
heard is never more than the message that it reads, so the bytes behind it are still there.
-/

namespace SocksRouter.Socks

open Outcome Text

variable {ch ch' : Channel}

/-! ### Short messages -/

theorem eq_of_length_eq_one {bytes : Bytes} (h : bytes.length = 1) :
    bytes = [bytes.getD 0 0] := by
  obtain ⟨a, rfl⟩ := List.length_eq_one_iff.1 h
  rfl

theorem eq_of_length_eq_two {bytes : Bytes} (h : bytes.length = 2) :
    bytes = [bytes.getD 0 0, bytes.getD 1 0] := by
  obtain ⟨a, b, rfl⟩ := List.length_eq_two.1 h
  rfl

theorem eq_of_length_eq_four {bytes : Bytes} (h : bytes.length = 4) :
    bytes = [bytes.getD 0 0, bytes.getD 1 0, bytes.getD 2 0, bytes.getD 3 0] := by
  match bytes, h with
  | [a, b, c, d], _ => rfl

/-! ### The greeting -/

/-- **A method is agreed on only after a greeting**, and otherwise at most a refusal is said. -/
theorem negotiate_cases {outcome : Except Fault Bool} (h : negotiate ch = (outcome, ch')) :
    (outcome = .ok true ∧
        ∃ greeting, IsGreeting greeting ∧ ch.Talked greeting [version, noCredentials] ch') ∨
      (outcome ≠ .ok true ∧
        ∃ heard said, (said = [] ∨ said = [version, noMethod]) ∧ ch.Talked heard said ch') := by
  rw [negotiate] at h
  rcases bind_apply_eq_iff.1 h with ⟨fault, hhead, rfl⟩ | ⟨head, ch₁, hhead, h⟩
  · obtain ⟨heard, htalked⟩ := Channel.talked_of_receiveExact hhead
    exact .inr ⟨by simp, heard, [], .inl rfl, htalked⟩
  obtain ⟨hheadLength, hheard⟩ := Channel.receiveExact_eq_ok hhead
  -- A client of another version is not answered.
  split at h
  · obtain ⟨rfl, rfl⟩ := Prod.mk.inj h
    exact .inr ⟨by simp, head, [], .inl rfl, hheard⟩
  rename_i hversion
  rcases bind_apply_eq_iff.1 h with ⟨fault, hmethods, rfl⟩ | ⟨methods, ch₂, hmethods, h⟩
  · obtain ⟨heard, htalked⟩ := Channel.talked_of_receiveExact hmethods
    exact .inr ⟨by simp, _, [], .inl rfl, hheard.hear htalked⟩
  obtain ⟨hlength, htalked⟩ := Channel.receiveExact_eq_ok hmethods
  have hgreeting := hheard.hear htalked
  -- Either answer may fail, and then nothing was said.
  split at h
  · refine .inr ?_
    rcases bind_apply_eq_iff.1 h with ⟨fault, hsend, rfl⟩ | ⟨⟨⟩, ch₃, hsend, h⟩
    · obtain ⟨rfl, -⟩ := Channel.send_eq_error hsend
      exact ⟨by simp, _, [], .inl rfl, hgreeting⟩
    · obtain ⟨rfl, rfl⟩ := Prod.mk.inj h
      exact ⟨by simp, _, _, .inr rfl, hgreeting.say (Channel.send_eq_ok hsend)⟩
  · rename_i hmethod
    rcases bind_apply_eq_iff.1 h with ⟨fault, hsend, rfl⟩ | ⟨⟨⟩, ch₃, hsend, h⟩
    · obtain ⟨rfl, -⟩ := Channel.send_eq_error hsend
      exact .inr ⟨by simp, _, [], .inl rfl, hgreeting⟩
    · obtain ⟨rfl, rfl⟩ := Prod.mk.inj h
      refine .inl ⟨rfl, head ++ methods, ?_, hgreeting.say (Channel.send_eq_ok hsend)⟩
      have hsize : methods.length < 256 := hlength ▸ UInt8.toNat_lt _
      rw [eq_of_length_eq_two hheadLength, not_not.1 hversion,
        ← UInt8.ofNat_toNat (x := head.getD 1 0), ← hlength]
      exact .intro methods hsize (not_not.1 hmethod)

/-! ### The request -/

/-- The host of a request is read as it is written. -/
theorem reads_host (type : UInt8) :
    Channel.Reads (readHost type) fun read heard ↦
      ∀ host, read = some host → IsHostField (type :: heard) host := by
  unfold readHost
  split
  · rename_i htype
    refine (Channel.reads_receiveExact 4).bind fun octets heard hoctets ↦ ?_
    obtain ⟨rfl, -⟩ := hoctets
    split
    · rename_i a b c d
      refine Channel.reads_pure fun host hhost ↦ ?_
      obtain rfl := Option.some.inj hhost
      rw [htype]
      exact .ipv4 ⟨a, b, c, d⟩
    · exact Channel.reads_pure (by simp)
  split
  · rename_i htype
    refine (Channel.reads_receiveExact 1).bind fun size heard hsize ↦ ?_
    obtain ⟨rfl, hone⟩ := hsize
    refine (Channel.reads_receiveExact _).bind fun name heard hname ↦ ?_
    obtain ⟨rfl, hlength⟩ := hname
    refine (Channel.reads_ofOutcome fun host hdecode ↦ ?_).bind fun host rest hhost ↦
      Channel.reads_pure hhost
    rintro - ⟨⟩
    rw [eq_of_length_eq_one hone, htype, ← UInt8.ofNat_toNat (x := size.getD 0 0), ← hlength]
    simpa using IsHostField.name name host (hlength ▸ UInt8.toNat_lt _) (mapError_eq_ok.1 hdecode)
  · exact Channel.reads_pure (by simp)

theorem reads_destination (type : UInt8) :
    Channel.Reads (readDestination type) fun read heard ↦
      ∀ host port, read = some (host, port) →
        port < 65536 ∧
          ∃ field, IsHostField field host ∧ type :: heard = field ++ shortBytes port := by
  unfold readDestination
  refine (reads_host type).bind fun read heard hhost ↦ ?_
  rcases read with - | host
  · exact Channel.reads_pure (by simp)
  · refine (Channel.reads_receiveExact 2).bind fun bytes rest hport ↦ Channel.reads_pure ?_
    obtain ⟨rfl, hlength⟩ := hport
    intro host' port' hread
    obtain ⟨rfl, rfl⟩ := Prod.mk.inj (Option.some.inj hread)
    refine ⟨shortValue_lt _ _, _, hhost host rfl, ?_⟩
    rw [shortBytes_shortValue, ← eq_of_length_eq_two hlength]
    simp

/-- **A request with a destination is given only after it was heard as a whole.** -/
theorem reads_request :
    Channel.Reads readRequest fun request heard ↦
      ∀ host port, request.destination = some (host, port) →
        IsRequest request.version request.command heard host port := by
  unfold readRequest
  refine (Channel.reads_receiveExact 4).bind fun head heard hhead ↦ ?_
  obtain ⟨rfl, hlength⟩ := hhead
  refine (reads_destination _).bind fun destination rest hdestination ↦
    Channel.reads_pure fun host port heq ↦ ?_
  obtain ⟨hport, field, hfield, hrest⟩ := hdestination host port heq
  have hwritten : head ++ (rest ++ []) =
      head.getD 0 0 :: head.getD 1 0 :: head.getD 2 0 :: field ++ shortBytes port :=
    calc head ++ (rest ++ [])
        = [head.getD 0 0, head.getD 1 0, head.getD 2 0, head.getD 3 0] ++ rest := by
          rw [List.append_nil]
          exact congrArg (· ++ rest) (eq_of_length_eq_four hlength)
      _ = [head.getD 0 0, head.getD 1 0, head.getD 2 0] ++ (head.getD 3 0 :: rest) := rfl
      _ = _ := by rw [hrest, ← List.append_assoc]; rfl
  rw [hwritten]
  exact .intro _ hfield hport

end SocksRouter.Socks
