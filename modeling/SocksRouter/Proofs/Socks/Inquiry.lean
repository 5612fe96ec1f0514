import SocksRouter.Proofs.Socks.Request

/-!
# What a client asks for

The readers of the handshake go through a stream message by message, and may stop at any of them.
`Inquiry.ofBytes` says what a stream comes to with nothing of how it is read: it is a function of
the bytes alone, complete or cut short at any place. The readers agree with it
(`negotiate_inquires`, `readRequest_inquires`), so neither the chunks that a stream comes in nor the
way it ends make a difference.

The order of the questions matters. The type of the address is looked at first, before there are any
bytes of the address; then the address and the port have to be there; the version and the command
come last.
-/

namespace SocksRouter

open Outcome Socks Text

/-- What a client asks for, as far as the bytes tell that it has written. -/
inductive Inquiry
  /-- There is no complete greeting of this version. -/
  | silence
  /-- The greeting does not offer to go without credentials. -/
  | noMethod
  /-- The greeting does, but no complete request is behind it. -/
  | unfinished
  /-- The address of the request is of an unknown type. -/
  | unknownAddress
  /-- The request is of another version, or its command is not to connect. -/
  | otherCommand
  /-- The client asks to be connected. -/
  | connect (host : String) (port : Nat)
  deriving DecidableEq, Repr

namespace Inquiry

/-- The host that stands behind an address type, and the bytes behind it. -/
def host? (type : UInt8) (bytes : Bytes) : Option (String × Bytes) :=
  if type = typeIPv4 then
    match bytes with
    | a :: b :: c :: d :: rest => some ((IPv4.mk a b c d).toString, rest)
    | _ => none
  else
    match bytes with
    | length :: rest =>
      if rest.length < length.toNat then none
      else match decodeUtf8 (rest.take length.toNat) with
        | .ok host => some (String.ofList host, rest.drop length.toNat)
        | .error _ => none
    | [] => none

/-- The destination that stands behind an address type: a host, and two bytes of a port. -/
def destination? (type : UInt8) (bytes : Bytes) : Option (String × Nat) :=
  match host? type bytes with
  | some (host, high :: low :: _) => some (host, shortValue high low)
  | _ => none

/-- What the bytes behind a greeting ask for. -/
def ofRequest : Bytes → Inquiry
  | requested :: command :: _ :: type :: rest =>
    if type ≠ typeIPv4 ∧ type ≠ typeName then unknownAddress
    else match destination? type rest with
      | none => unfinished
      | some (host, port) =>
        if requested ≠ version ∨ command ≠ connectCommand then otherCommand else connect host port
  | _ => unfinished

/-- What the bytes ask for that a client has written. -/
def ofBytes : Bytes → Inquiry
  | greeted :: count :: rest =>
    if greeted ≠ version ∨ rest.length < count.toNat then silence
    else if noCredentials ∉ rest.take count.toNat then noMethod
    else ofRequest (rest.drop count.toNat)
  | _ => silence

/-- What the outcome of reading a request amounts to. -/
def ofRead : Except Fault Request → Inquiry
  | .error _ => unfinished
  | .ok ⟨_, _, none⟩ => unknownAddress
  | .ok ⟨requested, command, some (host, port)⟩ =>
    if requested ≠ version ∨ command ≠ connectCommand then otherCommand else connect host port

end Inquiry

namespace Socks

open Inquiry

variable {ch ch' : Channel}

/-! ### The greeting -/

/-- A stream of fewer than two bytes is no greeting. -/
theorem ofBytes_of_length_lt {bytes : Bytes} (h : bytes.length < 2) : ofBytes bytes = .silence := by
  match bytes, h with
  | [], _ => rfl
  | [_], _ => rfl

/-- A client that takes all bytes takes the answer to its greeting. -/
theorem talked_of_agreement (hsends : ch.sendLimit = none) {data : Bytes} {agreed : Bool}
    {outcome : Except Fault Bool}
    (h : (do Channel.sendAll data; return agreed : OnChannel Bool) ch = (outcome, ch')) :
    outcome = .ok agreed ∧ ch.Talked [] data ch' := by
  rcases bind_apply_eq_iff.1 h with ⟨fault, hsend, -⟩ | ⟨⟨⟩, mid, hsend, h⟩
  · exact absurd hsends (Channel.send_eq_error hsend).2
  · obtain ⟨rfl, rfl⟩ := Prod.mk.inj h
    exact ⟨rfl, Channel.send_eq_ok hsend⟩

/-- **Agreeing on a method follows the greeting.** What is said is the answer to the greeting, and
what is left to be read is what the inquiry goes on with. -/
theorem negotiate_inquires (hsends : ch.sendLimit = none) {outcome : Except Fault Bool}
    (h : negotiate ch = (outcome, ch')) :
    ∃ heard said, ch.Talked heard said ch' ∧
      (outcome = .ok true ∧ said = [version, noCredentials] ∧
          ofBytes ch.unread = ofRequest ch'.unread ∨
        outcome = .ok false ∧ said = [version, noMethod] ∧ ofBytes ch.unread = .noMethod ∨
        outcome ≠ .ok true ∧ said = [] ∧ ofBytes ch.unread = .silence) := by
  rw [negotiate] at h
  rcases bind_apply_eq_iff.1 h with ⟨fault, hhead, rfl⟩ | ⟨head, ch₁, hhead, h⟩
  · obtain ⟨hfew, htalked⟩ := Channel.receiveExact_eq_error hhead
    exact ⟨_, [], htalked, .inr (.inr ⟨by simp, rfl, ofBytes_of_length_lt hfew⟩)⟩
  obtain ⟨hlength, hheard⟩ := Channel.receiveExact_eq_ok hhead
  obtain ⟨greeted, count, rfl⟩ := List.length_eq_two.1 hlength
  have hunread : ch.unread = greeted :: count :: ch₁.unread := hheard.unread_eq
  rw [hunread, ofBytes]
  simp only [List.getD_cons_zero, List.getD_cons_succ] at h
  split at h
  · rename_i hversion
    obtain ⟨rfl, rfl⟩ := Prod.mk.inj h
    exact ⟨_, [], hheard, .inr (.inr ⟨by simp, rfl, if_pos (.inl hversion)⟩)⟩
  rename_i hversion
  rcases bind_apply_eq_iff.1 h with ⟨fault, hmethods, rfl⟩ | ⟨methods, ch₂, hmethods, h⟩
  · obtain ⟨hfew, htalked⟩ := Channel.receiveExact_eq_error hmethods
    exact ⟨_, [], hheard.hear htalked, .inr (.inr ⟨by simp, rfl, if_pos (.inr hfew)⟩)⟩
  obtain ⟨hmany, htalked⟩ := Channel.receiveExact_eq_ok hmethods
  have hgreeting := hheard.hear htalked
  have htake : ch₁.unread.take count.toNat = methods := by
    rw [htalked.unread_eq, List.take_left' hmany]
  have hdrop : ch₁.unread.drop count.toNat = ch₂.unread := by
    rw [htalked.unread_eq, List.drop_left' hmany]
  have henough : ¬(greeted ≠ version ∨ ch₁.unread.length < count.toNat) := by
    rw [htalked.unread_eq, List.length_append, hmany]
    exact not_or.2 ⟨hversion, by omega⟩
  rw [if_neg henough, htake, hdrop]
  -- The greeting is complete, so it is answered.
  have hsends₂ : ch₂.sendLimit = none := hgreeting.sendLimit_eq.trans hsends
  split at h
  · rename_i hmethod
    obtain ⟨rfl, hsaid⟩ := talked_of_agreement hsends₂ h
    exact ⟨_, _, hgreeting.say hsaid, .inr (.inl ⟨rfl, rfl, if_pos hmethod⟩)⟩
  · rename_i hmethod
    obtain ⟨rfl, hsaid⟩ := talked_of_agreement hsends₂ h
    have hleft : ch₂.unread = ch'.unread := hsaid.unread_eq
    exact ⟨_, _, hgreeting.say hsaid, .inl ⟨rfl, rfl, (if_neg hmethod).trans (by rw [hleft])⟩⟩

/-! ### The request -/

/-- Reading a host came to what was found, and left what is behind it. -/
def Finds (outcome : Except Fault (Option String)) (left : Bytes) :
    Option (String × Bytes) → Prop
  | none => ∃ fault, outcome = .error fault
  | some (host, rest) => outcome = .ok (some host) ∧ left = rest

theorem readHost_typeIPv4 {outcome : Except Fault (Option String)}
    (h : readHost typeIPv4 ch = (outcome, ch')) :
    ∃ heard, ch.Talked heard [] ch' ∧ Finds outcome ch'.unread (host? typeIPv4 ch.unread) := by
  rw [readHost, if_pos rfl] at h
  unfold host?
  rw [if_pos rfl]
  rcases bind_apply_eq_iff.1 h with ⟨fault, hread, rfl⟩ | ⟨octets, mid, hread, h⟩
  · obtain ⟨hfew, htalked⟩ := Channel.receiveExact_eq_error hread
    refine ⟨_, htalked, ?_⟩
    match hunread : ch.unread, hfew with
    | [], _ | [_], _ | [_, _], _ | [_, _, _], _ => exact ⟨fault, rfl⟩
  · obtain ⟨hlength, htalked⟩ := Channel.receiveExact_eq_ok hread
    obtain ⟨a, b, c, d, rfl⟩ := List.length_eq_four.1 hlength
    obtain ⟨rfl, rfl⟩ := Prod.mk.inj h
    refine ⟨_, htalked, ?_⟩
    rw [htalked.unread_eq]
    exact ⟨rfl, rfl⟩

theorem readHost_typeName {outcome : Except Fault (Option String)}
    (h : readHost typeName ch = (outcome, ch')) :
    ∃ heard, ch.Talked heard [] ch' ∧ Finds outcome ch'.unread (host? typeName ch.unread) := by
  rw [readHost, if_neg (by decide), if_pos rfl] at h
  unfold host?
  rw [if_neg (by decide)]
  rcases bind_apply_eq_iff.1 h with ⟨fault, hread, rfl⟩ | ⟨size, mid, hread, h⟩
  · obtain ⟨hfew, htalked⟩ := Channel.receiveExact_eq_error hread
    refine ⟨_, htalked, ?_⟩
    rw [List.length_eq_zero_iff.1 (Nat.lt_one_iff.1 hfew)]
    exact ⟨fault, rfl⟩
  obtain ⟨hone, htalked⟩ := Channel.receiveExact_eq_ok hread
  obtain ⟨length, rfl⟩ := List.length_eq_one_iff.1 hone
  rw [htalked.unread_eq]
  simp only [List.getD_cons_zero, List.cons_append, List.nil_append] at h ⊢
  rcases bind_apply_eq_iff.1 h with ⟨fault, hread', rfl⟩ | ⟨name, mid', hread', h⟩
  · obtain ⟨hfew, htalked'⟩ := Channel.receiveExact_eq_error hread'
    rw [if_pos hfew]
    exact ⟨_, htalked.hear htalked', fault, rfl⟩
  obtain ⟨hlength, htalked'⟩ := Channel.receiveExact_eq_ok hread'
  have hall := htalked.hear htalked'
  rw [htalked'.unread_eq, List.take_left' hlength, List.drop_left' hlength,
    if_neg (by rw [List.length_append, hlength]; omega)]
  -- The name is there, and may be no text.
  rcases bind_apply_eq_iff.1 h with ⟨fault, hdecode, rfl⟩ | ⟨host, mid'', hdecode, h⟩
  · obtain ⟨hfailed, rfl⟩ := Channel.ofOutcome_apply_eq_iff.1 hdecode
    refine ⟨_, hall, ?_⟩
    rcases hname : decodeUtf8 name with cause | host
    · exact ⟨fault, rfl⟩
    · rw [hname] at hfailed
      cases hfailed
  · obtain ⟨hdecoded, rfl⟩ := Channel.ofOutcome_apply_eq_iff.1 hdecode
    obtain ⟨rfl, rfl⟩ := Prod.mk.inj h
    refine ⟨_, hall, ?_⟩
    rw [mapError_eq_ok.1 hdecoded]
    exact ⟨rfl, rfl⟩

/-- **A host is read as the bytes behind its type spell it**, and no other type is read. -/
theorem readHost_inquires {type : UInt8} {outcome : Except Fault (Option String)}
    (h : readHost type ch = (outcome, ch')) :
    ∃ heard, ch.Talked heard [] ch' ∧
      if type ≠ typeIPv4 ∧ type ≠ typeName then outcome = .ok none
      else Finds outcome ch'.unread (host? type ch.unread) := by
  split_ifs with htype
  · rw [readHost, if_neg htype.1, if_neg htype.2] at h
    obtain ⟨rfl, rfl⟩ := Prod.mk.inj h
    exact ⟨[], .refl _, rfl⟩
  by_cases hipv4 : type = typeIPv4
  · subst hipv4
    exact readHost_typeIPv4 h
  · obtain rfl : type = typeName := not_not.1 fun hname ↦ htype ⟨hipv4, hname⟩
    exact readHost_typeName h

/-- **A destination is read as the bytes behind its type spell it.** -/
theorem readDestination_inquires {type : UInt8} {outcome : Except Fault (Option (String × Nat))}
    (h : readDestination type ch = (outcome, ch')) :
    ∃ heard, ch.Talked heard [] ch' ∧
      if type ≠ typeIPv4 ∧ type ≠ typeName then outcome = .ok none
      else match destination? type ch.unread with
        | none => ∃ fault, outcome = .error fault
        | some destination => outcome = .ok (some destination) := by
  rw [readDestination] at h
  split_ifs with htype
  -- Of another type nothing is read.
  · rcases bind_apply_eq_iff.1 h with ⟨fault, hhost, rfl⟩ | ⟨read, mid, hhost, h⟩
    all_goals
      obtain ⟨heard, htalked, hspec⟩ := readHost_inquires hhost
      rw [if_pos htype] at hspec
    · contradiction
    · obtain rfl := Except.ok.inj hspec
      obtain ⟨rfl, rfl⟩ := Prod.mk.inj h
      exact ⟨heard, htalked, rfl⟩
  unfold destination?
  rcases bind_apply_eq_iff.1 h with ⟨fault, hhost, rfl⟩ | ⟨read, mid, hhost, h⟩
  all_goals
    obtain ⟨heard, htalked, hspec⟩ := readHost_inquires hhost
    rw [if_neg htype] at hspec
    rcases hfound : host? type ch.unread with - | ⟨host, rest⟩
    all_goals rw [hfound] at hspec
  · exact ⟨heard, htalked, fault, rfl⟩
  · cases hspec.1
  · obtain ⟨fault, hfault⟩ := hspec
    contradiction
  obtain ⟨hread, rfl⟩ := hspec
  obtain rfl := Except.ok.inj hread
  rcases bind_apply_eq_iff.1 h with ⟨fault, hport, rfl⟩ | ⟨port, mid', hport, h⟩
  · obtain ⟨hfew, htalked'⟩ := Channel.receiveExact_eq_error hport
    refine ⟨_, htalked.hear htalked', ?_⟩
    match mid.unread, hfew with
    | [], _ | [_], _ => exact ⟨fault, rfl⟩
  · obtain ⟨htwo, htalked'⟩ := Channel.receiveExact_eq_ok hport
    obtain ⟨high, low, rfl⟩ := List.length_eq_two.1 htwo
    obtain ⟨rfl, rfl⟩ := Prod.mk.inj h
    refine ⟨_, htalked.hear htalked', ?_⟩
    rw [htalked'.unread_eq]
    rfl

/-- **A request is read as its bytes spell it.** -/
theorem readRequest_inquires {outcome : Except Fault Request}
    (h : readRequest ch = (outcome, ch')) :
    ∃ heard, ch.Talked heard [] ch' ∧ ofRequest ch.unread = ofRead outcome := by
  rw [readRequest] at h
  rcases bind_apply_eq_iff.1 h with ⟨fault, hread, rfl⟩ | ⟨head, mid, hread, h⟩
  · obtain ⟨hfew, htalked⟩ := Channel.receiveExact_eq_error hread
    refine ⟨_, htalked, ?_⟩
    match hunread : ch.unread, hfew with
    | [], _ | [_], _ | [_, _], _ | [_, _, _], _ => rfl
  obtain ⟨hlength, htalked⟩ := Channel.receiveExact_eq_ok hread
  obtain ⟨requested, command, reserved, type, rfl⟩ := List.length_eq_four.1 hlength
  rw [htalked.unread_eq]
  simp only [List.cons_append, List.nil_append, ofRequest]
  rcases bind_apply_eq_iff.1 h with ⟨fault, hread', rfl⟩ | ⟨destination, mid', hread', h⟩
  · obtain ⟨heard, htalked', hspec⟩ := readDestination_inquires hread'
    refine ⟨_, htalked.hear htalked', ?_⟩
    simp only [List.getD_cons_zero, List.getD_cons_succ] at hspec
    by_cases htype : type ≠ typeIPv4 ∧ type ≠ typeName
    · rw [if_pos htype] at hspec
      contradiction
    rw [if_neg htype] at hspec ⊢
    rcases hfound : destination? type mid.unread with - | found
    · rfl
    · rw [hfound] at hspec
      contradiction
  · obtain ⟨rfl, rfl⟩ := Prod.mk.inj h
    obtain ⟨heard, htalked', hspec⟩ := readDestination_inquires hread'
    refine ⟨_, htalked.hear htalked', ?_⟩
    simp only [List.getD_cons_zero, List.getD_cons_succ] at hspec
    by_cases htype : type ≠ typeIPv4 ∧ type ≠ typeName
    · rw [if_pos htype] at hspec ⊢
      obtain rfl := Except.ok.inj hspec
      rfl
    rw [if_neg htype] at hspec ⊢
    rcases hfound : destination? type mid.unread with - | ⟨host, port⟩
    all_goals rw [hfound] at hspec
    · obtain ⟨fault, hfault⟩ := hspec
      contradiction
    · obtain rfl := Except.ok.inj hspec
      rfl

/-! ### Complete openings -/

theorem ofBytes_of_isGreeting {greeting : Bytes} (h : IsGreeting greeting) (rest : Bytes) :
    ofBytes (greeting ++ rest) = ofRequest rest := by
  obtain ⟨methods, hlength, hmethod⟩ := h
  have hcount : (UInt8.ofNat methods.length).toNat = methods.length :=
    UInt8.toNat_ofNat_of_lt' hlength
  have henough : ¬methods.length + rest.length < methods.length := by omega
  simp [ofBytes, hcount, hmethod, henough]

theorem ofRequest_of_isRequest {request : Bytes} {host : String} {port : Nat}
    (h : IsRequest version connectCommand request host port) (rest : Bytes) :
    ofRequest (request ++ rest) = .connect host port := by
  obtain ⟨reserved, hhost, hport⟩ := h
  have hvalue := shortValue_shortBytes hport
  obtain ⟨ip⟩ | ⟨name, chars, hlength, hdecode⟩ := hhost
  · simp [ofRequest, destination?, host?, shortBytes, IPv4.octets, hvalue]
  · have hcount : (UInt8.ofNat name.length).toNat = name.length :=
      UInt8.toNat_ofNat_of_lt' hlength
    have henough : ¬name.length + (rest.length + 1 + 1) < name.length := by omega
    simp [ofRequest, destination?, host?, shortBytes, hvalue, hcount, hdecode, henough, typeName,
      typeIPv4]

/-- **A client that writes an opening asks to be connected**, whatever it writes behind it. -/
theorem ofBytes_of_isOpening {opening : Bytes} {host : String} {port : Nat}
    (h : IsOpening opening host port) (payload : Bytes) :
    ofBytes (opening ++ payload) = .connect host port := by
  obtain ⟨hgreeting, hrequest⟩ := h
  rw [List.append_assoc, ofBytes_of_isGreeting hgreeting, ofRequest_of_isRequest hrequest]

end Socks

end SocksRouter
