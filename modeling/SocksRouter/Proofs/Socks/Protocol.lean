import SocksRouter.Socks.Protocol
import SocksRouter.Proofs.Wire.Channel

/-!
# The messages, as grammars

Each message of the protocol is described by the way it is put together, with nothing of how it is
read: a greeting, a request to connect, a reply. A message that comes first in a stream can be read
in one way only (`IsOpening.append_inj`), so what stands behind it is well defined. The last section
says what the server's own replies look like. A reply has ten bytes and tells success in its second
one (`encodeReply_eq_ok`), so no other reply can be mistaken for it.
-/

namespace SocksRouter

/-! ### Numbers in one and two bytes -/

theorem shortBytes_shortValue (high low : UInt8) :
    shortBytes (shortValue high low) = [high, low] := by
  have hhigh := high.toNat_lt
  have hlow := low.toNat_lt
  rw [shortBytes, shortValue, show (256 * high.toNat + low.toNat) / 256 = high.toNat by omega,
    show (256 * high.toNat + low.toNat) % 256 = low.toNat by omega, UInt8.ofNat_toNat,
    UInt8.ofNat_toNat]

theorem shortValue_shortBytes {port : Nat} (h : port < 65536) :
    shortValue (UInt8.ofNat (port / 256)) (UInt8.ofNat (port % 256)) = port := by
  rw [shortValue, UInt8.toNat_ofNat_of_lt' (show port / 256 < 256 by omega),
    UInt8.toNat_ofNat_of_lt' (show port % 256 < 256 by omega)]
  omega

theorem shortValue_lt (high low : UInt8) : shortValue high low < 65536 := by
  have hhigh := high.toNat_lt
  have hlow := low.toNat_lt
  rw [shortValue]
  omega

theorem shortField_eq_ok_iff {n : Int} {bytes : Bytes} :
    shortField n = .ok bytes ↔ 0 ≤ n ∧ n ≤ 65535 ∧ bytes = shortBytes n.toNat := by
  unfold shortField halfWord
  split
  · simp only [reduceCtorEq, false_iff]
    omega
  · split
    · simp only [reduceCtorEq, false_iff]
      omega
    · simp only [Except.ok.injEq]
      constructor
      · rintro rfl
        exact ⟨by omega, by omega, rfl⟩
      · rintro ⟨-, -, rfl⟩
        rfl

theorem byteField_ofNat {n : Nat} (h : n < 256) : byteField n = .ok [UInt8.ofNat n] := by
  rw [byteField, if_neg (by unfold halfWord; omega), if_neg (by omega), Int.toNat_natCast]

namespace Socks

open Outcome Text

/-! ### What a client writes -/

/-- A greeting that offers to go without credentials: the version, the number of methods, and the
methods. -/
inductive IsGreeting : Bytes → Prop
  | intro (methods : Bytes) (hlength : methods.length < 256)
      (hmethod : noCredentials ∈ methods) :
      IsGreeting (version :: UInt8.ofNat methods.length :: methods)

/-- A host as it stands in a request, by four-byte address or by a name in UTF-8. -/
inductive IsHostField : Bytes → String → Prop
  | ipv4 (ip : IPv4) : IsHostField (typeIPv4 :: ip.octets) (IPv4.toString ip)
  | name (name : Bytes) (host : List Char) (hlength : name.length < 256)
      (hhost : decodeUtf8 name = .ok host) :
      IsHostField (typeName :: UInt8.ofNat name.length :: name) (String.ofList host)

/-- A request as it is written, with the command and the destination that it names. -/
inductive IsRequest (version command : UInt8) : Bytes → String → Nat → Prop
  | intro (reserved : UInt8) {field : Bytes} {host : String} (hhost : IsHostField field host)
      {port : Nat} (hport : port < 65536) :
      IsRequest version command (version :: command :: reserved :: field ++ shortBytes port) host
        port

/-- What a client writes to be connected to a destination: a greeting and a complete request. -/
inductive IsOpening : Bytes → String → Nat → Prop
  | intro {greeting request : Bytes} {host : String} {port : Nat} (hgreeting : IsGreeting greeting)
      (hrequest : IsRequest version connectCommand request host port) :
      IsOpening (greeting ++ request) host port

/-! ### One reading only -/

theorem eq_of_ofNat_eq {m n : Nat} (hm : m < 256) (hn : n < 256)
    (h : UInt8.ofNat m = UInt8.ofNat n) : m = n := by
  have := congrArg UInt8.toNat h
  rwa [UInt8.toNat_ofNat_of_lt' hm, UInt8.toNat_ofNat_of_lt' hn] at this

/-- A counted stretch ends where its count says. -/
theorem counted_append_inj {a a' rest rest' : Bytes} (ha : a.length < 256) (ha' : a'.length < 256)
    (h : UInt8.ofNat a.length :: a ++ rest = UInt8.ofNat a'.length :: a' ++ rest') :
    a = a' ∧ rest = rest' := by
  obtain ⟨hcount, hbytes⟩ := List.cons.inj h
  exact List.append_inj hbytes (eq_of_ofNat_eq ha ha' hcount)

theorem IsGreeting.append_inj {a a' rest rest' : Bytes} (ha : IsGreeting a) (ha' : IsGreeting a')
    (h : a ++ rest = a' ++ rest') : a = a' ∧ rest = rest' := by
  obtain ⟨methods, hlength, -⟩ := ha
  obtain ⟨methods', hlength', -⟩ := ha'
  obtain ⟨rfl, rfl⟩ := counted_append_inj hlength hlength' (List.cons.inj h).2
  exact ⟨rfl, rfl⟩

theorem IsHostField.append_inj {a a' rest rest' : Bytes} {host host' : String}
    (ha : IsHostField a host) (ha' : IsHostField a' host') (h : a ++ rest = a' ++ rest') :
    a = a' ∧ rest = rest' ∧ host = host' := by
  obtain ⟨ip⟩ | ⟨name, chars, hlength, hdecode⟩ := ha
  · obtain ⟨ip'⟩ | ⟨name', chars', hlength', hdecode'⟩ := ha'
    · obtain ⟨hoctets, rfl⟩ := List.append_inj (List.cons.inj h).2 rfl
      obtain rfl : ip = ip' := by
        cases ip
        cases ip'
        simpa [IPv4.octets] using hoctets
      exact ⟨rfl, rfl, rfl⟩
    · exact absurd (List.cons.inj h).1 (by decide)
  · obtain ⟨ip'⟩ | ⟨name', chars', hlength', hdecode'⟩ := ha'
    · exact absurd (List.cons.inj h).1 (by decide)
    · obtain ⟨rfl, rfl⟩ := counted_append_inj hlength hlength' (List.cons.inj h).2
      obtain rfl := Except.ok.inj (hdecode.symm.trans hdecode')
      exact ⟨rfl, rfl, rfl⟩

theorem shortBytes_inj {m n : Nat} (hm : m < 65536) (hn : n < 65536)
    (h : shortBytes m = shortBytes n) : m = n := by
  obtain ⟨hhigh, htail⟩ := List.cons.inj h
  have hhigh := eq_of_ofNat_eq (by omega) (by omega) hhigh
  have hlow := eq_of_ofNat_eq (by omega) (by omega) (List.cons.inj htail).1
  omega

theorem IsRequest.append_inj {version command : UInt8} {a a' rest rest' : Bytes}
    {host host' : String} {port port' : Nat} (ha : IsRequest version command a host port)
    (ha' : IsRequest version command a' host' port') (h : a ++ rest = a' ++ rest') :
    a = a' ∧ rest = rest' ∧ host = host' ∧ port = port' := by
  obtain ⟨reserved, hhost, hport⟩ := ha
  obtain ⟨reserved', hhost', hport'⟩ := ha'
  simp only [List.cons_append, List.append_assoc, List.cons.injEq, true_and] at h
  obtain ⟨rfl, h⟩ := h
  obtain ⟨rfl, hbehind, rfl⟩ := hhost.append_inj hhost' h
  obtain ⟨hports, rfl⟩ := List.append_inj hbehind rfl
  obtain rfl := shortBytes_inj hport hport' hports
  exact ⟨rfl, rfl, rfl, rfl⟩

/-- **What a client writes to be connected has one reading**, whatever stands behind it. -/
theorem IsOpening.append_inj {a a' rest rest' : Bytes} {host host' : String} {port port' : Nat}
    (ha : IsOpening a host port) (ha' : IsOpening a' host' port') (h : a ++ rest = a' ++ rest') :
    a = a' ∧ rest = rest' ∧ host = host' ∧ port = port' := by
  obtain ⟨hgreeting, hrequest⟩ := ha
  obtain ⟨hgreeting', hrequest'⟩ := ha'
  rw [List.append_assoc, List.append_assoc] at h
  obtain ⟨rfl, hbehind⟩ := hgreeting.append_inj hgreeting' h
  obtain ⟨rfl, rfl, rfl, rfl⟩ := hrequest.append_inj hrequest' hbehind
  exact ⟨rfl, rfl, rfl, rfl⟩

/-! ### Replies of the server -/

/-- A reply that tells the outcome `code` and a bound address. -/
inductive IsReply (code : UInt8) : Bytes → Prop
  | intro (ip : IPv4) {port : Nat} (hport : port < 65536) :
      IsReply code (version :: code :: 0 :: typeIPv4 :: ip.octets ++ shortBytes port)

theorem IsReply.length_eq {code : UInt8} {bytes : Bytes} (h : IsReply code bytes) :
    bytes.length = 10 := by
  cases h
  rfl

theorem IsReply.code_eq {code : UInt8} {bytes : Bytes} (h : IsReply code bytes) :
    bytes[1]? = some code := by
  cases h
  rfl

/-- **What the server replies with.** -/
theorem encodeReply_eq_ok {status : Status} {bound : LocalName} {bytes : Bytes}
    (h : encodeReply status.code bound = .ok bytes) : IsReply (UInt8.ofNat status.code) bytes := by
  have hcode : status.code < 256 := by cases status <;> decide
  rw [encodeReply] at h
  obtain ⟨code, hstatus, h⟩ := bind_eq_ok.1 h
  rw [mapError_eq_ok, byteField_ofNat hcode] at hstatus
  obtain rfl := Except.ok.inj hstatus
  obtain ⟨port, hport, h⟩ := bind_eq_ok.1 h
  obtain ⟨hlow, hhigh, rfl⟩ := shortField_eq_ok_iff.1 (mapError_eq_ok.1 hport)
  obtain rfl := pure_eq_ok.1 h
  exact .intro _ (by omega)

/-- Outcomes have different numbers. -/
theorem Status.code_eq_zero_iff {status : Status} :
    UInt8.ofNat status.code = 0 ↔ status = .success := by
  cases status <;> decide

/-- **Replying says the whole reply or nothing**, and nothing only if the reply cannot be written or
the channel does not take it. -/
theorem talked_of_reply {status : Status} {bound : LocalName} {ch ch' : Channel}
    {outcome : Except Fault Unit} (h : reply status.code bound ch = (outcome, ch')) :
    (∃ bytes, encodeReply status.code bound = .ok bytes ∧ outcome = .ok () ∧
        ch.Talked [] bytes ch') ∨
      outcome ≠ .ok () ∧ ch.Talked [] [] ch' ∧
        ∀ bytes, encodeReply status.code bound = .ok bytes → ch.sendLimit ≠ none := by
  rw [reply] at h
  rcases bind_apply_eq_iff.1 h with ⟨fault, hbytes, rfl⟩ | ⟨bytes, mid, hbytes, h⟩
  · obtain ⟨hencode, rfl⟩ := Channel.ofOutcome_apply_eq_iff.1 hbytes
    exact .inr ⟨by simp, .refl ch, by simp [hencode]⟩
  obtain ⟨hencode, rfl⟩ := Channel.ofOutcome_apply_eq_iff.1 hbytes
  rcases outcome with fault | ⟨⟩
  · obtain ⟨rfl, hlimit⟩ := Channel.send_eq_error h
    exact .inr ⟨by simp, .refl _, fun _ _ ↦ hlimit⟩
  · exact .inl ⟨bytes, hencode, rfl, Channel.send_eq_ok h⟩

end Socks

end SocksRouter
