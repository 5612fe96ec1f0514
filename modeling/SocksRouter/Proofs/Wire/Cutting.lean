import SocksRouter.Proofs.Outcome
import SocksRouter.Proofs.Wire.Exact

/-!
# How a stream is cut

The bytes that are still to be read of a channel come in chunks, and where they are cut is up to the
network. `Channel.joined` puts all of them into one chunk and leaves the rest of the channel as it
is, so two channels that are joined to the same differ in nothing but the cutting
(`Channel.exists_recut`).

Reading an exact number of bytes does not see the cutting (`Channel.respects_receiveExact`): it
gives the same bytes or stops at the same fault, and the bytes that are left are the same as well.
Nor do sending, limiting the time and closing, which do not look at what is to be read. Reading what
happens to be there does see it, so `Channel.receive` is not among these operations.
-/

namespace SocksRouter.Channel

open Outcome

variable {ch ch' : Channel} {α : Type}

/-- The channel with all that is still to be read in one chunk. -/
def joined (ch : Channel) : Channel :=
  { ch with inbound := [ch.unread] }

@[simp] theorem unread_joined (ch : Channel) : ch.joined.unread = ch.unread :=
  List.append_nil _

theorem unread_eq_of_joined (h : ch.joined = ch'.joined) : ch.unread = ch'.unread := by
  rw [← unread_joined ch, h, unread_joined]

/-- **Channels that are joined to the same differ in the cutting only.** -/
theorem exists_recut (h : ch.joined = ch'.joined) :
    ∃ inbound, ch.unread = inbound.flatten ∧ ch' = { ch with inbound } := by
  refine ⟨ch'.inbound, unread_eq_of_joined h, ?_⟩
  obtain ⟨inbound, ending, late, sendLimit, shutdownFails, closeFails, localName, sent, shutdowns,
    closes, timeouts⟩ := ch
  simp only [joined, mk.injEq] at h
  obtain ⟨-, rfl, rfl, rfl, rfl, rfl, rfl, rfl, rfl, rfl, rfl⟩ := h
  rfl

/-- **An exact read does not see the cutting.** -/
theorem respects_receiveExact (size : Nat) : Respects joined (receiveExact size) := by
  intro ch ch' h
  have hcount : ch.unread.length = ch'.unread.length := by rw [unread_eq_of_joined h]
  obtain ⟨inbound, hunread, rfl⟩ := exists_recut h
  rcases Nat.lt_or_ge ch.unread.length size with hfew | henough
  -- Both reads come to the end of the stream, behind the same number of bytes.
  · rw [receiveExact_of_lt hfew, receiveExact_of_lt (hcount ▸ hfew), ← hcount]
    exact ⟨rfl, rfl⟩
  · obtain ⟨left, hleft, hreceive⟩ := receiveExact_of_le henough
    obtain ⟨left', hleft', hreceive'⟩ := receiveExact_of_le (hcount ▸ henough)
    have hsame : ch.unread = unread { ch with inbound } := hunread
    rw [hreceive, hreceive', ← hsame]
    refine ⟨rfl, ?_⟩
    show ({ ch with inbound := [left.flatten] } : Channel) = { ch with inbound := [left'.flatten] }
    rw [hleft, hleft', ← hsame]

theorem respects_sendAll (data : Bytes) : Respects joined (sendAll data) := by
  intro ch ch' h
  obtain ⟨inbound, hunread, rfl⟩ := exists_recut h
  simp only [sendAll, send]
  split
  · exact ⟨rfl, h⟩
  · exact ⟨rfl, congrArg (fun ch ↦ { ch with sent := ch.sent ++ data }) h⟩

theorem respects_ofOutcome (outcome : Except Fault α) : Respects joined (ofOutcome outcome) :=
  fun _ _ h ↦ ⟨rfl, h⟩

theorem respects_limitTime (limit : Option Seconds) : Respects joined (limitTime limit) :=
  fun _ _ h ↦ ⟨rfl, congrArg (setTimeout limit) h⟩

theorem respects_close : Respects joined fun ch ↦ ch.close := by
  intro ch ch' h
  obtain ⟨inbound, -, rfl⟩ := exists_recut h
  exact ⟨rfl, congrArg (fun ch ↦ { ch with closes := ch.closes + 1 }) h⟩

theorem respects_localName :
    Respects joined (fun ch ↦ (.ok ch.localName, ch) : OnChannel (Option LocalName)) := by
  intro ch ch' h
  obtain ⟨inbound, -, rfl⟩ := exists_recut h
  exact ⟨rfl, h⟩

end SocksRouter.Channel
