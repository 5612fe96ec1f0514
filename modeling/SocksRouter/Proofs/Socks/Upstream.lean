import SocksRouter.Proofs.Socks.Chain

/-!
# What a forward proxy may answer

Whether a tunnel comes about is decided by the bytes that come back, and by nothing else: not by the
chunks in which they come. They are read field by field, the answer to the offer (two bytes), the
head of the reply (four bytes: version, status, a reserved byte and the type of the address), and
the bound address with its port. A field is judged when all of it is there. So there are three
cases, and no stream is two of them:

* The stream starts with the replies of a forward proxy that consents (`Tunnel.IsConsent`).
* A field that is there refuses (`Tunnel.Refuses`).
* The stream ends inside a field (`Tunnel.BreaksOff`).

A handshake that stops tells the last two apart by its fault (`Tunnel.Stopped`), which is how it is
known that it does not stop in the first case.
-/

namespace SocksRouter

open Outcome Socks

variable {ch ch' : Channel} {host : String} {port : Int}

namespace Tunnel

/-! ### The three cases -/

/-- A field that is there refuses: the answer to the offer, the version or the status of the reply,
or the type of the bound address. -/
inductive Refuses : Bytes → Prop
  | method {answered method : UInt8} (rest : Bytes)
      (h : answered ≠ version ∨ method ≠ noCredentials) : Refuses ([answered, method] ++ rest)
  | status {answered status : UInt8} (reserved type : UInt8) (rest : Bytes)
      (h : answered ≠ version ∨ status ≠ 0) :
      Refuses ([version, noCredentials] ++ ([answered, status, reserved, type] ++ rest))
  | type (reserved : UInt8) {type : UInt8} (rest : Bytes)
      (h : type ≠ typeIPv4 ∧ type ≠ typeIPv6 ∧ type ≠ typeName) :
      Refuses ([version, noCredentials] ++ ([version, 0, reserved, type] ++ rest))

/-- The bytes end inside a field, and no field before that one refuses. -/
inductive BreaksOff : Bytes → Prop
  | method {bytes : Bytes} (h : bytes.length < 2) : BreaksOff bytes
  | head {bytes : Bytes} (h : bytes.length < 4) : BreaksOff ([version, noCredentials] ++ bytes)
  | bound {bytes missing : Bytes} (hhead : 6 ≤ bytes.length) (hmissing : missing ≠ [])
      (h : IsConsent (bytes ++ missing)) : BreaksOff bytes

/-- A bound address begins with a type that is known. -/
theorem IsBoundField.type_eq {bound rest : Bytes} {type : UInt8} (h : IsBoundField bound)
    {more : Bytes} (heq : bound ++ more = type :: rest) :
    ¬(type ≠ typeIPv4 ∧ type ≠ typeIPv6 ∧ type ≠ typeName) := by
  rintro ⟨hfour, hsix, hname⟩
  cases h with
  | ipv4 => exact hfour (List.cons.inj heq).1.symm
  | ipv6 => exact hsix (List.cons.inj heq).1.symm
  | name => exact hname (List.cons.inj heq).1.symm

/-- What begins with a consent does not refuse. -/
theorem IsConsent.not_refuses {consent : Bytes} (h : IsConsent consent) (rest : Bytes) :
    ¬Refuses (consent ++ rest) := by
  obtain ⟨reserved, hbound, hport⟩ := h
  rename_i bound port
  generalize hall :
    [version, noCredentials] ++ ([version, 0, reserved] ++ (bound ++ port)) ++ rest = bytes
  intro hrefuses
  cases hrefuses with
  | method _ hanswer =>
    simp only [List.cons_append, List.cons.injEq] at hall
    obtain ⟨rfl, rfl, -⟩ := hall
    simp at hanswer
  | status _ _ _ hstatus =>
    simp only [List.cons_append, List.nil_append, List.cons.injEq, true_and] at hall
    obtain ⟨rfl, rfl, -⟩ := hall
    simp at hstatus
  | type _ _ htype =>
    simp only [List.cons_append, List.nil_append, List.append_assoc, List.cons.injEq,
      true_and] at hall
    exact hbound.type_eq hall.2 htype

/-- What refuses does so whatever follows. -/
theorem Refuses.append {bytes : Bytes} (h : Refuses bytes) (more : Bytes) :
    Refuses (bytes ++ more) := by
  cases h with
  | method rest hanswer => exact .method (rest ++ more) hanswer
  | status reserved type rest hstatus => exact .status reserved type (rest ++ more) hstatus
  | type reserved rest htype => exact .type reserved (rest ++ more) htype

/-- A consent holds all of the first two fields. -/
theorem IsConsent.length_le {consent : Bytes} (h : IsConsent consent) : 6 ≤ consent.length := by
  obtain ⟨reserved, hbound, hport⟩ := h
  simp only [List.length_append, List.length_cons, List.length_nil]
  omega

/-- What begins with a consent does not break off. -/
theorem IsConsent.not_breaksOff {consent rest : Bytes} (h : IsConsent consent) :
    ¬BreaksOff (consent ++ rest) := by
  have hlength := h.length_le
  generalize hall : consent ++ rest = bytes
  have hlengths := congrArg List.length hall
  rw [List.length_append] at hlengths
  intro hbreaks
  cases hbreaks with
  | method hfew => omega
  | head hfew =>
    simp only [List.length_append, List.length_cons, List.length_nil] at hlengths
    omega
  | @bound _ missing _ hmissing hconsent =>
    -- Another consent goes beyond the bytes, but there is only one.
    have hmore : consent ++ (rest ++ missing) = bytes ++ missing ++ [] := by
      rw [← hall, List.append_nil, List.append_assoc]
    have hnothing := (h.append_inj hconsent hmore).2
    exact hmissing (List.append_eq_nil_iff.1 hnothing).2

/-- Behind an answer that agrees only a head refuses, or what stands behind it. -/
theorem Refuses.length_le {bytes : Bytes} (h : Refuses ([version, noCredentials] ++ bytes)) :
    4 ≤ bytes.length := by
  generalize hall : [version, noCredentials] ++ bytes = all at h
  have hlengths := congrArg List.length hall
  cases h with
  | method _ hanswer =>
    simp only [List.cons_append, List.cons.injEq] at hall
    obtain ⟨rfl, rfl, -⟩ := hall
    simp at hanswer
  | status | type =>
    simp only [List.length_append, List.length_cons, List.length_nil] at hlengths
    omega

/-- What refuses does not break off. -/
theorem Refuses.not_breaksOff {bytes : Bytes} (h : Refuses bytes) : ¬BreaksOff bytes := by
  intro hbreaks
  cases hbreaks with
  | method hfew =>
    have hlong : 2 ≤ bytes.length := by cases h <;> simp
    omega
  | head hfew => exact Nat.not_lt.2 h.length_le hfew
  | bound _ _ hconsent =>
    exact hconsent.not_refuses [] ((List.append_nil _).symm ▸ h.append _)

/-- Bytes that are too few for an address and a port break off, whatever they are. -/
theorem breaksOff_of_lt {front heard : Bytes} {n : Nat} (reserved : UInt8)
    (hfield : ∀ address : Bytes, address.length = n → IsBoundField (front ++ address))
    (hfront : front ≠ []) (hfew : heard.length < n + 2) :
    BreaksOff ([version, noCredentials] ++ ([version, 0, reserved] ++ (front ++ heard))) := by
  -- Zeros can stand for what is missing.
  let missing : Bytes := List.replicate (n + 2 - heard.length) 0
  have hlength : (heard ++ missing).length = n + 2 := by
    rw [List.length_append, List.length_replicate]
    omega
  obtain ⟨address, port, haddress, hport, hheard⟩ := exists_eq_append_of_length hlength
  have hconsent := IsConsent.intro reserved (hfield address haddress) hport
  rw [List.append_assoc, ← hheard] at hconsent
  have hall : IsConsent ([version, noCredentials] ++ ([version, 0, reserved] ++ (front ++ heard)) ++
      missing) := by
    simpa only [List.append_assoc] using hconsent
  refine .bound ?_ ?_ hall
  · have hsome := List.length_pos_iff.2 hfront
    simp only [List.length_append, List.length_cons, List.length_nil]
    omega
  · exact List.ne_nil_of_length_pos (by rw [List.length_replicate]; omega)

/-! ### Where a handshake stops -/

/-- What a handshake that stops at a fault has come to. -/
inductive Stopped (fault : Fault) (bytes : Bytes) : Prop
  | refused (hfault : fault.isRefusal = true) (h : Refuses bytes)
  | brokenOff (hfault : fault.isSystem = true) (h : BreaksOff bytes)

/-- Reading an address and a port stops where they break off. -/
theorem discard_stops (front : Bytes) {n : Nat} (reserved : UInt8) {fault : Fault}
    (hfield : ∀ address : Bytes, address.length = n → IsBoundField (front ++ address))
    (hfront : front ≠ [])
    (h : (discard (Channel.receiveExact (n + 2)) : OnChannel Unit) ch = (.error fault, ch')) :
    Stopped fault
      ([version, noCredentials] ++ ([version, 0, reserved] ++ (front ++ ch.unread))) := by
  rcases bind_apply_eq_iff.1 h with ⟨cause, hread, heq⟩ | ⟨_, _, -, hpure⟩
  · obtain rfl := Except.error.inj heq
    obtain ⟨hfew, -⟩ := Channel.receiveExact_eq_error hread
    exact .brokenOff (Channel.isSystem_of_receiveExact hread)
      (breaksOff_of_lt reserved hfield hfront hfew)
  · cases (Prod.mk.inj hpure).1

/-- The bound address is refused for its type, or it breaks off. -/
theorem skipBound_stops {type : UInt8} (reserved : UInt8) {fault : Fault}
    (h : skipBound type ch = (.error fault, ch')) :
    Stopped fault ([version, noCredentials] ++ ([version, 0, reserved, type] ++ ch.unread)) := by
  unfold skipBound at h
  split at h
  · rename_i htype
    exact discard_stops [type] reserved (fun _ haddress ↦ htype ▸ .ipv4 haddress)
      (List.cons_ne_nil _ _) h
  split at h
  · rename_i htype
    exact discard_stops [type] reserved (fun _ haddress ↦ htype ▸ .ipv6 haddress)
      (List.cons_ne_nil _ _) h
  split at h
  · rename_i htype
    rcases bind_apply_eq_iff.1 h with ⟨cause, hread, heq⟩ | ⟨size, mid, hread, h⟩
    · -- Not even the length is there; an empty name would do.
      obtain rfl := Except.error.inj heq
      obtain ⟨hfew, -⟩ := Channel.receiveExact_eq_error hread
      rw [List.eq_nil_of_length_eq_zero (Nat.lt_one_iff.1 hfew), htype]
      have hempty : IsConsent ([version, noCredentials] ++
          ([version, 0, reserved] ++ ([typeName, 0] ++ [0, 0]))) :=
        .intro reserved (.name (show ([] : Bytes).length < 256 by decide)) rfl
      exact .brokenOff (Channel.isSystem_of_receiveExact hread)
        (.bound (by simp) (List.cons_ne_nil 0 [0, 0]) hempty)
    · obtain ⟨hone, htalked⟩ := Channel.receiveExact_eq_ok hread
      rw [htalked.unread_eq, eq_of_length_eq_one hone]
      refine discard_stops [type, size.getD 0 0] reserved (fun name hname ↦ ?_)
        (List.cons_ne_nil _ _) h
      rw [htype, ← UInt8.ofNat_toNat (x := size.getD 0 0), ← hname]
      exact .name (hname ▸ UInt8.toNat_lt _)
  · rename_i hfour hsix hname
    obtain ⟨heq, -⟩ := Prod.mk.inj h
    rw [← Except.error.inj heq]
    exact .refused rfl (.type reserved _ ⟨hfour, hsix, hname⟩)

theorem awaitReply_stops {target : ForwardProxy} {fault : Fault}
    (h : awaitReply target host port ch = (.error fault, ch')) :
    Stopped fault ([version, noCredentials] ++ ch.unread) := by
  rw [awaitReply] at h
  rcases bind_apply_eq_iff.1 h with ⟨cause, hread, heq⟩ | ⟨head, mid, hread, h⟩
  · obtain rfl := Except.error.inj heq
    obtain ⟨hfew, -⟩ := Channel.receiveExact_eq_error hread
    exact .brokenOff (Channel.isSystem_of_receiveExact hread) (.head hfew)
  obtain ⟨hlength, htalked⟩ := Channel.receiveExact_eq_ok hread
  rw [htalked.unread_eq, eq_of_length_eq_four hlength]
  split at h
  · rename_i hrefused
    obtain ⟨heq, -⟩ := Prod.mk.inj h
    rw [← Except.error.inj heq]
    exact .refused rfl (.status _ _ _ hrefused)
  · rename_i hagreed
    obtain ⟨hversion, hstatus⟩ := not_or.1 hagreed
    rw [not_not.1 hversion, not_not.1 hstatus]
    exact skipBound_stops _ h

/-- **Behind the offer the handshake stops where a field refuses or breaks off.** -/
theorem awaitMethod_stops {target : ForwardProxy} {fault : Fault} {destination : Bytes}
    (hdestination : encodeDestination host port = .ok destination)
    (hsends : ch.Takes (request destination))
    (h : awaitMethod target host port ch = (.error fault, ch')) : Stopped fault ch.unread := by
  rw [awaitMethod] at h
  rcases bind_apply_eq_iff.1 h with ⟨cause, hread, heq⟩ | ⟨answer, mid, hread, h⟩
  · obtain rfl := Except.error.inj heq
    obtain ⟨hfew, -⟩ := Channel.receiveExact_eq_error hread
    exact .brokenOff (Channel.isSystem_of_receiveExact hread) (.method hfew)
  obtain ⟨hlength, htalked⟩ := Channel.receiveExact_eq_ok hread
  rw [htalked.unread_eq, eq_of_length_eq_two hlength]
  split at h
  · rename_i hrefused
    obtain ⟨heq, -⟩ := Prod.mk.inj h
    rw [← Except.error.inj heq]
    exact .refused rfl (.method _ hrefused)
  rename_i hagreed
  obtain ⟨hversion, hmethod⟩ := not_or.1 hagreed
  rw [not_not.1 hversion, not_not.1 hmethod]
  rw [hdestination] at h
  have h : (Channel.sendAll (request destination) >>= fun _ ↦ awaitReply target host port) mid =
      (.error fault, ch') := h
  have htakes : mid.Takes (request destination) :=
    Channel.Takes.of_talked (show ch.Takes ([] ++ request destination) from hsends) htalked
  obtain ⟨ch₂, hsend, htalked'⟩ := htakes.exists_sendAll
  rw [bind_apply_of_ok hsend] at h
  rw [htalked'.unread_eq, List.nil_append]
  exact awaitReply_stops h

/-- Where the destination cannot be written, nothing is said behind the offer. -/
theorem awaitMethod_of_unwritten {target : ForwardProxy} {outcome : Except Fault Unit}
    {cause : Fault} (hdestination : encodeDestination host port = .error cause)
    (h : awaitMethod target host port ch = (outcome, ch')) :
    outcome ≠ .ok () ∧ ∃ heard, ch.Talked heard [] ch' := by
  rw [awaitMethod, hdestination] at h
  rcases bind_apply_eq_iff.1 h with ⟨fault, hread, rfl⟩ | ⟨answer, mid, hread, h⟩
  · exact ⟨by simp, Channel.talked_of_receiveExact hread⟩
  obtain ⟨heard, htalked⟩ := Channel.talked_of_receiveExact hread
  split at h
  all_goals
    obtain ⟨rfl, rfl⟩ := Prod.mk.inj h
    exact ⟨by simp, heard, htalked⟩

/-- The fault tells the two cases apart. -/
theorem Stopped.cases {fault : Fault} {bytes : Bytes} (h : Stopped fault bytes) :
    (Refuses bytes ∨ BreaksOff bytes) ∧ (fault.isRefusal = true ↔ Refuses bytes) ∧
      (fault.isSystem = true ↔ BreaksOff bytes) := by
  have hclass : fault.isRefusal = true → fault.isSystem ≠ true := by
    cases fault <;> simp [Fault.isRefusal, Fault.isSystem]
  cases h with
  | refused hfault h =>
    exact ⟨.inl h, iff_of_true hfault h, iff_of_false (hclass hfault) h.not_breaksOff⟩
  | brokenOff hfault h =>
    exact ⟨.inr h, iff_of_false (fun hrefusal ↦ hclass hrefusal hfault) fun hrefuses ↦
      hrefuses.not_breaksOff h, iff_of_true hfault h⟩

/-- A handshake does not stop at a consent. -/
theorem IsConsent.not_stopped {consent rest : Bytes} {fault : Fault} (h : IsConsent consent) :
    ¬Stopped fault (consent ++ rest) := by
  rintro (⟨-, hrefuses⟩ | ⟨-, hbreaks⟩)
  · exact h.not_refuses rest hrefuses
  · exact h.not_breaksOff hbreaks

/-! ### What becomes of a tunnel -/

variable {target : ForwardProxy} {outcome : Except Fault Unit}

/-- **A tunnel stands behind a consent, or it stops where a field refuses or breaks off**, and then
it is closed. -/
theorem establish_of_encoded {destination : Bytes}
    (hdestination : encodeDestination host port = .ok destination)
    (hsends : ∀ appeal, IsAppeal host port appeal → ch.Takes appeal)
    (hcloses : ch.closeFails = false) (h : establish target host port ch = (outcome, ch')) :
    (outcome = .ok () ∧ ∃ consent, IsConsent consent ∧
        ch.Talked consent (offer ++ request destination) ch' ∧
          ch'.timeouts.getLast? = some none) ∨
      ∃ fault, outcome = .error fault ∧ Stopped fault ch.unread ∧ ch'.closes = ch.closes + 1 := by
  obtain ⟨shaken, mid, hshaken, hcases⟩ := exists_handshake h
  obtain ⟨heard, said, htalked, -, -, hok⟩ := handshake_cases hshaken
  obtain ⟨rfl, rfl, rfl⟩ | ⟨fault, rfl, -, houtcome, rfl⟩ := hcases
  · obtain ⟨hconsent, destination', hdestination', rfl⟩ := hok rfl
    obtain rfl := Except.ok.inj (hdestination.symm.trans hdestination')
    have hset := htalked.hear (Channel.talked_setTimeout mid none)
    rw [List.append_nil] at hset
    exact .inl ⟨rfl, heard, hconsent, hset, List.getLast?_concat⟩
  · obtain ⟨first, hfirst, hbehind⟩ := handshake_of_takes target host port (hsends _ .offer)
    have hunread : ch.unread = first.unread := hfirst.unread_eq
    have hrequest := (hsends _ (.request hdestination)).of_talked hfirst
    rw [hbehind] at hshaken
    refine .inr ⟨fault, houtcome (htalked.closeFails_eq.trans hcloses), ?_,
      congrArg (· + 1) htalked.closes_eq⟩
    rw [hunread]
    exact awaitMethod_stops hdestination hrequest hshaken

/-- **Where the destination cannot be written only the offer is sent**, and the tunnel is closed. -/
theorem establish_of_unwritten {cause : Fault}
    (hdestination : encodeDestination host port = .error cause)
    (hsends : ch.Takes offer) (hcloses : ch.closeFails = false)
    (h : establish target host port ch = (outcome, ch')) :
    ∃ fault, outcome = .error fault ∧ ch'.sent = ch.sent ++ offer ∧ ch'.closes = ch.closes + 1 := by
  obtain ⟨first, hfirst, hbehind⟩ := handshake_of_takes target host port hsends
  obtain ⟨shaken, mid, hshaken, hcases⟩ := exists_handshake h
  rw [hbehind] at hshaken
  obtain ⟨hfailed, heard, htalked⟩ := awaitMethod_of_unwritten hdestination hshaken
  have hall := hfirst.hear htalked
  obtain ⟨rfl, -⟩ | ⟨fault, rfl, -, houtcome, rfl⟩ := hcases
  · exact absurd rfl hfailed
  · exact ⟨fault, houtcome (hall.closeFails_eq.trans hcloses), hall.sent_eq,
      congrArg (· + 1) hall.closes_eq⟩

end Tunnel

namespace InSession

variable {target : ForwardProxy} {timeout : Seconds} {exchange exchange' : Exchange}
  {outcome : Except Fault Unit} {remote : Channel}

/-- Opening a tunnel makes the connection that is laid down a tunnel. -/
theorem openTunnel_of_upcoming (hdial : exchange.dialer.upcoming = .ok remote)
    (h : openTunnel target host port timeout exchange = (outcome, exchange')) :
    ∃ after, Tunnel.establish target host port remote = (outcome, after) ∧
      HasRemote exchange' ⟨target.host, target.port, timeout, none⟩ exchange.dialer.attempts
        after := by
  rcases hdialed : dial target.host target.port timeout exchange with ⟨dialed, mid⟩
  have hok : dialed = .ok () := by
    have hfirst := (congrArg Prod.fst hdialed).symm
    simpa only [dial, Dialer.dial, hdial] using hfirst
  obtain ⟨-, ⟨-, laid, hlaid, hmid⟩ | ⟨hfailed, -⟩⟩ := dial_cases hdialed
  · obtain rfl := Except.ok.inj (hdial.symm.trans hlaid)
    subst hok
    rw [openTunnel, bind_apply_of_ok hdialed] at h
    obtain ⟨after, hestablish, hremote, -⟩ := onRemote_apply_eq hmid h
    exact ⟨after, hestablish, hremote⟩
  · exact absurd hok hfailed

open Tunnel in
/-- **A tunnel comes about exactly if the forward proxy consents.** Then its two replies have been
read to the last byte, the offer and the request have been sent, and the connection is open without
a time limit. Otherwise it has been closed once, and the fault is a refusal if a field that is there
refuses, and one of the connection if a field breaks off. Where the destination cannot be written,
only the offer has been sent, whatever has come back, and the connection has been closed once. -/
theorem openTunnel_iff_isConsent (hdial : exchange.dialer.upcoming = .ok remote)
    (hsends : ∀ appeal, IsAppeal host port appeal → remote.Takes appeal)
    (hcloses : remote.closeFails = false)
    (h : openTunnel target host port timeout exchange = (outcome, exchange')) :
    ∃ after, exchange'.dialer.attempts =
        ⟨target.host, target.port, timeout, some after⟩ :: exchange.dialer.attempts ∧
      (∀ destination, encodeDestination host port = .ok destination →
        (outcome = .ok () ↔ ∃ consent rest, IsConsent consent ∧ remote.unread = consent ++ rest) ∧
        (∀ consent rest, IsConsent consent → remote.unread = consent ++ rest →
          after.unread = rest ∧ after.sent = remote.sent ++ (offer ++ request destination) ∧
            after.closes = remote.closes ∧ after.timeouts.getLast? = some none) ∧
        (outcome ≠ .ok () → ∃ fault, outcome = .error fault ∧
          (Refuses remote.unread ∨ BreaksOff remote.unread) ∧
          (fault.isRefusal = true ↔ Refuses remote.unread) ∧
          (fault.isSystem = true ↔ BreaksOff remote.unread) ∧
          after.closes = remote.closes + 1)) ∧
      ∀ cause, encodeDestination host port = .error cause →
        ∃ fault, outcome = .error fault ∧ after.sent = remote.sent ++ offer ∧
          after.closes = remote.closes + 1 := by
  obtain ⟨after, hestablish, hremote⟩ := openTunnel_of_upcoming hdial h
  refine ⟨after, hremote, fun destination hdestination ↦ ?_, fun cause hcause ↦
    establish_of_unwritten hcause (hsends _ .offer) hcloses hestablish⟩
  obtain ⟨rfl, heard, hheard, htalked, htimeouts⟩ | ⟨fault, rfl, hstopped, hclosed⟩ :=
    establish_of_encoded hdestination hsends hcloses hestablish
  · refine ⟨iff_of_true rfl ⟨heard, after.unread, hheard, htalked.unread_eq⟩,
      fun consent rest hconsent hunread ↦ ?_, fun hfailed ↦ absurd rfl hfailed⟩
    obtain ⟨-, hrest⟩ := hheard.append_inj hconsent (htalked.unread_eq.symm.trans hunread)
    exact ⟨hrest, htalked.sent_eq, htalked.closes_eq, htimeouts⟩
  · have hnone : ∀ consent rest, IsConsent consent → remote.unread ≠ consent ++ rest := by
      intro consent rest hconsent hunread
      exact hconsent.not_stopped (hunread ▸ hstopped)
    obtain ⟨hwhy, hrefusal, hsystem⟩ := hstopped.cases
    refine ⟨iff_of_false (by simp) ?_, fun consent rest hconsent hunread ↦
      absurd hunread (hnone consent rest hconsent), fun _ ↦
        ⟨fault, rfl, hwhy, hrefusal, hsystem, hclosed⟩⟩
    rintro ⟨consent, rest, hconsent, hunread⟩
    exact hnone consent rest hconsent hunread

/-- A forward proxy that names its address by name, takes no byte more than it has to, and says no
more behind its first two bytes from the destination. -/
def consenting : Channel where
  inbound := [[5], [0, 5, 0, 9, 3], [1, 98, 0, 80, 111], [107]]
  ending := .silent
  sendLimit := some 11

theorem openTunnel_consenting :
    let front : Exchange := { client := {}, dialer := { pending := [.ok consenting] } }
    let opened := openTunnel ⟨"10.0.0.1", 1080⟩ "a" 443 connectTimeout front
    opened.1 = .ok () ∧ ∃ after,
      opened.2.dialer.attempts = [⟨"10.0.0.1", 1080, connectTimeout, some after⟩] ∧
        after.unread = [111, 107] ∧ after.sent = [5, 1, 0, 5, 1, 0, 3, 1, 97, 1, 187] ∧
        after.closes = 0 ∧ after.timeouts.getLast? = some none := by
  intro front opened
  have hdial : front.dialer.upcoming = .ok consenting := rfl
  have hopen : openTunnel ⟨"10.0.0.1", 1080⟩ "a" 443 connectTimeout front =
      (opened.1, opened.2) := rfl
  have hdestination : encodeDestination "a" 443 = .ok [3, 1, 97, 1, 187] := by decide +kernel
  have hsends : ∀ appeal, Tunnel.IsAppeal "a" 443 appeal → consenting.Takes appeal := by
    rintro _ (_ | _ | h) limit hlimit
    all_goals obtain rfl := Option.some.inj hlimit
    · decide
    · decide
    · obtain rfl := Except.ok.inj (hdestination.symm.trans h)
      decide
  have hconsent : Tunnel.IsConsent [5, 0, 5, 0, 9, 3, 1, 98, 0, 80] :=
    .intro 9 (.name (show ([98] : Bytes).length < 256 by decide)) (show [0, 80].length = 2 from rfl)
  have hunread : consenting.unread = [5, 0, 5, 0, 9, 3, 1, 98, 0, 80] ++ [111, 107] := rfl
  obtain ⟨after, hattempts, hencoded, -⟩ :=
    openTunnel_iff_isConsent hdial hsends rfl hopen
  obtain ⟨hok, hstands, -⟩ := hencoded _ hdestination
  exact ⟨hok.2 ⟨_, _, hconsent, hunread⟩, after, hattempts, hstands _ _ hconsent hunread⟩

end InSession

end SocksRouter
