import SocksRouter.Socks.Tunnel
import SocksRouter.Proofs.Socks.Request

/-!
# What a tunnel leaves behind

A tunnel stands when the forward proxy has sent its two replies, and then exactly these have been
read, so the next byte is the first one from the destination (`Tunnel.establish_cases`). Towards the
proxy nothing is said but an offer to go without credentials and one request, for the destination
that was asked for; a handshake that fails has said a part of this, and its connection is closed.
-/

namespace SocksRouter

open Outcome Socks

variable {ch ch' : Channel} {host : String} {port : Int}

namespace Tunnel

/-! ### What is said and heard -/

/-- The offer to go without credentials. -/
def offer : Bytes :=
  [version, 1, noCredentials]

/-- The request for a destination that is given as it is written on the wire. -/
def request (destination : Bytes) : Bytes :=
  [version, connectCommand, 0] ++ destination

/-- What may have been said to the forward proxy on the way to a destination. -/
inductive IsAppeal (host : String) (port : Int) : Bytes → Prop
  | silence : IsAppeal host port []
  | offer : IsAppeal host port offer
  | request {destination : Bytes} (h : encodeDestination host port = .ok destination) :
      IsAppeal host port (Tunnel.offer ++ Tunnel.request destination)

/-- A bound address: its type and the address itself. -/
inductive IsBoundField : Bytes → Prop
  | ipv4 {address : Bytes} (h : address.length = 4) : IsBoundField (typeIPv4 :: address)
  | ipv6 {address : Bytes} (h : address.length = 16) : IsBoundField (typeIPv6 :: address)
  | name {name : Bytes} (h : name.length < 256) :
      IsBoundField (typeName :: UInt8.ofNat name.length :: name)

/-- The two replies of a forward proxy that consents: no credentials, and success with a bound
address and port. -/
inductive IsConsent : Bytes → Prop
  | intro (reserved : UInt8) {bound : Bytes} (hbound : IsBoundField bound) {port : Bytes}
      (hport : port.length = 2) :
      IsConsent ([version, noCredentials] ++ ([version, 0, reserved] ++ (bound ++ port)))

theorem IsBoundField.append_inj {a a' rest rest' : Bytes} (ha : IsBoundField a)
    (ha' : IsBoundField a') (h : a ++ rest = a' ++ rest') : a = a' ∧ rest = rest' := by
  cases ha <;> cases ha' <;> obtain ⟨htype, htail⟩ := List.cons.inj h
  case ipv4.ipv4 ha _ ha' =>
    obtain ⟨rfl, rfl⟩ := List.append_inj htail (ha.trans ha'.symm)
    exact ⟨rfl, rfl⟩
  case ipv6.ipv6 ha _ ha' =>
    obtain ⟨rfl, rfl⟩ := List.append_inj htail (ha.trans ha'.symm)
    exact ⟨rfl, rfl⟩
  case name.name ha _ ha' =>
    obtain ⟨rfl, rfl⟩ := counted_append_inj ha ha' htail
    exact ⟨rfl, rfl⟩
  all_goals exact absurd htype (by decide)

/-- **The replies of a forward proxy have one reading**, whatever stands behind them. -/
theorem IsConsent.append_inj {a a' rest rest' : Bytes} (ha : IsConsent a) (ha' : IsConsent a')
    (h : a ++ rest = a' ++ rest') : a = a' ∧ rest = rest' := by
  obtain ⟨reserved, hbound, hport⟩ := ha
  obtain ⟨reserved', hbound', hport'⟩ := ha'
  simp only [List.cons_append, List.nil_append, List.append_assoc, List.cons.injEq, true_and] at h
  obtain ⟨rfl, h⟩ := h
  obtain ⟨rfl, hbehind⟩ := hbound.append_inj hbound' h
  obtain ⟨rfl, rfl⟩ := List.append_inj hbehind (hport.trans hport'.symm)
  exact ⟨rfl, rfl⟩

/-! ### The handshake -/

theorem exists_eq_append_of_length {bytes : Bytes} {n : Nat} (h : bytes.length = n + 2) :
    ∃ address port : Bytes, address.length = n ∧ port.length = 2 ∧ bytes = address ++ port :=
  ⟨bytes.take n, bytes.drop n, by simp [h], by simp [h], (List.take_append_drop n bytes).symm⟩

/-- The bound address and the port are read up to their last byte. -/
theorem reads_bound (type : UInt8) :
    Channel.Reads (skipBound type) fun _ heard ↦
      ∃ bound port : Bytes,
        IsBoundField bound ∧ port.length = 2 ∧ type :: heard = bound ++ port := by
  -- What is left of an address of known length, its port included.
  have hfixed : ∀ n, (∀ address : Bytes, address.length = n → IsBoundField (type :: address)) →
      Channel.Reads (discard (Channel.receiveExact (n + 2))) fun _ heard ↦
        ∃ bound port : Bytes, IsBoundField bound ∧ port.length = 2 ∧
          type :: heard = bound ++ port := by
    intro n hfield
    refine (Channel.reads_receiveExact _).discard fun bytes heard hbytes ↦ ?_
    obtain ⟨rfl, hlength⟩ := hbytes
    obtain ⟨address, port, haddress, hport, rfl⟩ := exists_eq_append_of_length hlength
    exact ⟨_, port, hfield address haddress, hport, rfl⟩
  unfold skipBound
  split
  · rename_i htype
    exact hfixed 4 fun address haddress ↦ htype ▸ .ipv4 haddress
  split
  · rename_i htype
    exact hfixed 16 fun address haddress ↦ htype ▸ .ipv6 haddress
  split
  · rename_i htype
    refine (Channel.reads_receiveExact 1).bind fun size heard hsize ↦ ?_
    obtain ⟨rfl, hone⟩ := hsize
    refine (Channel.reads_receiveExact _).discard fun bytes rest hbytes ↦ ?_
    obtain ⟨rfl, hlength⟩ := hbytes
    obtain ⟨name, port, hname, hport, rfl⟩ := exists_eq_append_of_length hlength
    refine ⟨typeName :: UInt8.ofNat name.length :: name, port, ?_, hport, ?_⟩
    · exact .name (hname ▸ UInt8.toNat_lt _)
    · rw [htype, hname, UInt8.ofNat_toNat]
      exact congrArg (typeName :: · ++ (name ++ port)) (eq_of_length_eq_one hone)
  · exact Channel.reads_throw

theorem handshake_cases {target : ForwardProxy} {outcome : Except Fault Unit}
    (h : handshake target host port ch = (outcome, ch')) :
    ∃ heard said, ch.Talked heard said ch' ∧ IsAppeal host port said ∧
      (ch.sendLimit = none → offer <+: said) ∧
      (outcome = .ok () → IsConsent heard ∧
        ∃ destination, encodeDestination host port = .ok destination ∧
          said = offer ++ request destination) := by
  rw [handshake] at h
  rcases bind_apply_eq_iff.1 h with ⟨fault, hsend, rfl⟩ | ⟨⟨⟩, ch₁, hsend, h⟩
  · obtain ⟨rfl, hlimit⟩ := Channel.send_eq_error hsend
    exact ⟨[], [], .refl ch', .silence, fun hnone ↦ absurd hnone hlimit, by simp⟩
  have htalked₁ := Channel.send_eq_ok hsend
  rcases bind_apply_eq_iff.1 h with ⟨fault, hread, rfl⟩ | ⟨answer, ch₂, hread, h⟩
  · obtain ⟨heard, htalked⟩ := Channel.talked_of_receiveExact hread
    exact ⟨_, _, htalked₁.hear htalked, .offer, fun _ ↦ List.prefix_rfl, by simp⟩
  obtain ⟨hanswerLength, htalked⟩ := Channel.receiveExact_eq_ok hread
  have htalked₂ := htalked₁.hear htalked
  -- So far the offer has been said; the destination may be one that cannot be written.
  split at h
  · obtain ⟨rfl, rfl⟩ := Prod.mk.inj h
    exact ⟨_, _, htalked₂, .offer, fun _ ↦ List.prefix_rfl, by simp⟩
  rename_i hanswer
  rcases bind_apply_eq_iff.1 h with ⟨fault, hencode, rfl⟩ | ⟨destination, ch₃, hencode, h⟩
  · obtain ⟨-, rfl⟩ := Channel.ofOutcome_apply_eq_iff.1 hencode
    exact ⟨_, _, htalked₂, .offer, fun _ ↦ List.prefix_rfl, by simp⟩
  obtain ⟨hdestination, rfl⟩ := Channel.ofOutcome_apply_eq_iff.1 hencode
  rcases bind_apply_eq_iff.1 h with ⟨fault, hsend', rfl⟩ | ⟨⟨⟩, ch₄, hsend', h⟩
  · obtain ⟨rfl, -⟩ := Channel.send_eq_error hsend'
    exact ⟨_, _, htalked₂, .offer, fun _ ↦ List.prefix_rfl, by simp⟩
  have htalked₃ := htalked₂.say (Channel.send_eq_ok hsend')
  -- From here on the appeal is complete and nothing more is said, whatever is heard.
  have happeal : IsAppeal host port (offer ++ request destination) := .request hdestination
  have hoffer : ch.sendLimit = none → offer <+: offer ++ request destination :=
    fun _ ↦ List.prefix_append _ _
  rcases bind_apply_eq_iff.1 h with ⟨fault, hread', rfl⟩ | ⟨head, ch₅, hread', h⟩
  · obtain ⟨heard, htalked'⟩ := Channel.talked_of_receiveExact hread'
    exact ⟨_, _, htalked₃.hear htalked', happeal, hoffer, by simp⟩
  obtain ⟨hheadLength, htalked'⟩ := Channel.receiveExact_eq_ok hread'
  have htalked₄ := htalked₃.hear htalked'
  split at h
  · obtain ⟨rfl, rfl⟩ := Prod.mk.inj h
    exact ⟨_, _, htalked₄, happeal, hoffer, by simp⟩
  rename_i hhead
  obtain ⟨heard, htalked'', hbound⟩ := reads_bound _ _ _ _ h
  refine ⟨_, _, htalked₄.hear htalked'', happeal, hoffer,
    fun hok ↦ ⟨?_, destination, hdestination, rfl⟩⟩
  obtain ⟨bound, port, hfield, hport, heq⟩ := hbound () hok
  obtain ⟨hversion, hmethod⟩ := not_or.1 hanswer
  obtain ⟨hversion', hstatus⟩ := not_or.1 hhead
  rw [eq_of_length_eq_two hanswerLength, eq_of_length_eq_four hheadLength, not_not.1 hversion,
    not_not.1 hmethod, not_not.1 hversion', not_not.1 hstatus]
  have := IsConsent.intro (head.getD 2 0) hfield hport
  rw [← heq] at this
  simpa using this

/-- **A tunnel stands if the handshake succeeds, and its connection is closed if not.** -/
theorem exists_handshake {target : ForwardProxy} {outcome : Except Fault Unit}
    (h : establish target host port ch = (outcome, ch')) :
    ∃ shaken mid, handshake target host port ch = (shaken, mid) ∧
      (shaken = .ok () ∧ outcome = .ok () ∧ ch' = mid.setTimeout none ∨
        ∃ cause, shaken = .error cause ∧ outcome ≠ .ok () ∧
          (mid.closeFails = false → outcome = .error cause) ∧
          ch' = { mid with closes := mid.closes + 1 }) := by
  obtain ⟨outcome', mid, hrun⟩ : ∃ outcome' mid,
      (do handshake target host port; Channel.limitTime none : OnChannel Unit) ch =
        (outcome', mid) := ⟨_, _, rfl⟩
  rw [establish, Channel.orClose, hrun] at h
  rcases bind_apply_eq_iff.1 hrun with ⟨cause, hfailed, rfl⟩ | ⟨⟨⟩, ch₁, hshaken, hlimit⟩
  · refine ⟨.error cause, mid, hfailed, .inr ⟨cause, rfl, ?_⟩⟩
    simp only at h
    split at h
    all_goals
      rename_i hclose
      obtain ⟨rfl, rfl⟩ := Prod.mk.inj h
      obtain ⟨hfails, rfl⟩ := Prod.mk.inj hclose
      refine ⟨by simp, fun hno ↦ ?_, rfl⟩
    · rfl
    · rw [hno] at hfails
      contradiction
  · obtain ⟨rfl, rfl⟩ := Prod.mk.inj hlimit
    obtain ⟨rfl, rfl⟩ := Prod.mk.inj h
    exact ⟨.ok (), ch₁, hshaken, .inl ⟨rfl, rfl, rfl⟩⟩

/-- **A tunnel that stands has read the two replies and no more, and has asked for its
destination.** One that does not has said a part of this, and is closed. -/
theorem establish_cases {target : ForwardProxy} {outcome : Except Fault Unit}
    (h : establish target host port ch = (outcome, ch')) :
    (outcome = .ok () ∧ ∃ heard destination, IsConsent heard ∧
        encodeDestination host port = .ok destination ∧
        ch.Talked heard (offer ++ request destination) ch') ∨
      (outcome ≠ .ok () ∧ ∃ said, IsAppeal host port said ∧ ch'.sent = ch.sent ++ said ∧
        ch'.closes = ch.closes + 1) := by
  obtain ⟨shaken, mid, hshaken, ⟨rfl, rfl, rfl⟩ | ⟨cause, rfl, hfailed, -, rfl⟩⟩ :=
    exists_handshake h
  · obtain ⟨heard, said, htalked, -, -, hok⟩ := handshake_cases hshaken
    obtain ⟨hconsent, destination, hdestination, rfl⟩ := hok rfl
    have htalked' := htalked.hear (Channel.talked_setTimeout mid none)
    rw [List.append_nil] at htalked'
    exact .inl ⟨rfl, heard, destination, hconsent, hdestination, htalked'⟩
  · obtain ⟨heard, said, htalked, happeal, -⟩ := handshake_cases hshaken
    exact .inr ⟨hfailed, said, happeal, htalked.sent_eq, congrArg (· + 1) htalked.closes_eq⟩

end Tunnel

end SocksRouter
