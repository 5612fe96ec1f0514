import SocksRouter.Proofs.Address.IPv4
import SocksRouter.Proofs.Idna.Ascii
import SocksRouter.Proofs.Socks.Request
import SocksRouter.Proofs.Text.Utf8

/-!
# A destination is written as it is read

The router writes destinations when it asks a forward proxy, and reads them when it is asked itself.
The two sides are written apart from each other, and they meet at one grammar: what is written is a
host field and a port (`exists_isHostField`), and a host field and a port are read to their last
byte and no further, however they are cut into chunks (`exists_readDestination`). So every
destination is read as it was written, or it is refused (`encodeDestination_reads_back`).

What becomes of a destination is told by `encodeDestination_cases`, case by case. That an ASCII name
keeps its letters is `IsSentAs.eq_of_isAscii`, and when it is refused is `refuses_ascii_iff`.
-/

namespace SocksRouter

open Outcome Text

namespace Socks

/-! ### Reading -/

section Reading

variable {ch : Channel} {type : UInt8} {field rest : Bytes} {host : String} {port : Nat}

/-- A host field starts with the type of its address. -/
theorem IsHostField.exists_eq_cons {address : Bytes} (h : IsHostField address host) :
    ∃ type field, address = type :: field := by
  cases h with
  | ipv4 ip => exact ⟨_, _, rfl⟩
  | name name chars hlength hdecode => exact ⟨_, _, rfl⟩

/-- A host field is read to its last byte. -/
theorem exists_readHost (hfield : IsHostField (type :: field) host)
    (hunread : ch.unread = field ++ rest) :
    ∃ ch', readHost type ch = (.ok (some host), ch') ∧ ch.Talked field [] ch' ∧
      ch'.unread = rest := by
  obtain ⟨ip⟩ | ⟨name, chars, hlength, hdecode⟩ := hfield
  · obtain ⟨ch', hoctets, htalked, hleft⟩ :=
      Channel.exists_receiveExact hunread (show ip.octets.length = 4 from rfl)
    refine ⟨ch', ?_, htalked, hleft⟩
    rw [readHost, if_pos rfl, bind_apply_of_ok hoctets]
    rfl
  -- A name is read in two steps, and the first one tells how long the second is.
  · have hcount : (UInt8.ofNat name.length).toNat = name.length :=
      UInt8.toNat_ofNat_of_lt' hlength
    have hcounted : ch.unread = [UInt8.ofNat name.length] ++ (name ++ rest) := hunread
    obtain ⟨mid, hsize, htalked, hleft⟩ :=
      Channel.exists_receiveExact hcounted (show _ = 1 from rfl)
    obtain ⟨ch', hname, htalked', hleft'⟩ := Channel.exists_receiveExact hleft rfl
    refine ⟨ch', ?_, htalked.hear htalked', hleft'⟩
    have hhost : Channel.ofOutcome ((decodeUtf8 name).mapError Fault.unreadableName) ch' =
        (.ok chars, ch') :=
      Channel.ofOutcome_apply_eq_iff.2 ⟨mapError_eq_ok.2 hdecode, rfl⟩
    rw [readHost, if_neg (by decide), if_pos rfl, bind_apply_of_ok hsize,
      List.getD_cons_zero, hcount, bind_apply_of_ok hname, bind_apply_of_ok hhost]
    rfl

/-- **A destination is read to its last byte and no further**, in any chunks. -/
theorem exists_readDestination (hfield : IsHostField (type :: field) host) (hport : port < 65536)
    (hunread : ch.unread = field ++ (shortBytes port ++ rest)) :
    ∃ ch', readDestination type ch = (.ok (some (host, port)), ch') ∧
      ch.Talked (field ++ shortBytes port) [] ch' ∧ ch'.unread = rest := by
  obtain ⟨mid, hhost, htalked, hleft⟩ := exists_readHost hfield hunread
  obtain ⟨ch', hbytes, htalked', hleft'⟩ :=
    Channel.exists_receiveExact hleft (show (shortBytes port).length = 2 from rfl)
  refine ⟨ch', ?_, htalked.hear htalked', hleft'⟩
  have hvalue : shortValue ((shortBytes port).getD 0 0) ((shortBytes port).getD 1 0) = port :=
    shortValue_shortBytes hport
  rw [readDestination, bind_apply_of_ok hhost]
  refine (bind_apply_of_ok hbytes).trans ?_
  rw [hvalue]
  rfl

/-- Reads an address type, and the destination that stands behind it. -/
def readTypedDestination : OnChannel (Option (String × Nat)) := do
  let type ← Channel.receiveExact 1
  readDestination (type.getD 0 0)

theorem exists_readTypedDestination {address : Bytes} (haddress : IsHostField address host)
    (hport : port < 65536) (hunread : ch.unread = address ++ shortBytes port ++ rest) :
    ∃ ch', readTypedDestination ch = (.ok (some (host, port)), ch') ∧
      ch.Talked (address ++ shortBytes port) [] ch' ∧ ch'.unread = rest := by
  obtain ⟨type, field, rfl⟩ := haddress.exists_eq_cons
  have htyped : ch.unread = [type] ++ (field ++ (shortBytes port ++ rest)) := by
    simpa using hunread
  obtain ⟨mid, htype, htalked, hleft⟩ :=
    Channel.exists_receiveExact htyped (show _ = 1 from rfl)
  obtain ⟨ch', hread, htalked', hleft'⟩ := exists_readDestination haddress hport hleft
  exact ⟨ch', (bind_apply_of_ok htype).trans hread, htalked.hear htalked', hleft'⟩

/-- **A request is read to its last byte and no further**, in any chunks. -/
theorem exists_readRequest {request : Bytes} {requested command : UInt8}
    (h : IsRequest requested command request host port) (hunread : ch.unread = request ++ rest) :
    ∃ ch', readRequest ch = (.ok ⟨requested, command, some (host, port)⟩, ch') ∧
      ch.Talked request [] ch' ∧ ch'.unread = rest := by
  obtain ⟨reserved, haddress, hport⟩ := h
  obtain ⟨type, field, rfl⟩ := haddress.exists_eq_cons
  have hheaded : ch.unread =
      [requested, command, reserved, type] ++ (field ++ (shortBytes port ++ rest)) := by
    simpa using hunread
  obtain ⟨mid, hhead, htalked, hleft⟩ :=
    Channel.exists_receiveExact hheaded (show _ = 4 from rfl)
  obtain ⟨ch', hread, htalked', hleft'⟩ := exists_readDestination haddress hport hleft
  refine ⟨ch', ?_, htalked.hear htalked', hleft'⟩
  rw [readRequest, bind_apply_of_ok hhead]
  exact bind_apply_of_ok hread

end Reading

/-! ### Writing -/

section Writing

variable {host : String} {port : Nat}

/-- The bytes of an ASCII text. -/
def asciiBytes (s : List Char) : Bytes :=
  s.map fun c ↦ UInt8.ofNat c.toNat

/-- A dotted quad is ASCII. -/
theorem isAscii_of_mem_toString (ip : IPv4) :
    ∀ c ∈ (IPv4.toString ip).toList, Idna.isAscii c = true := by
  have hoctet : ∀ n < 256, (IPv4.octetDigits n).all Idna.isAscii = true := by decide +kernel
  have hoctets : ∀ label ∈ ip.octets.map (fun v ↦ IPv4.octetDigits v.toNat),
      ∀ c ∈ label, Idna.isAscii c = true := by
    intro label hlabel
    obtain ⟨v, -, rfl⟩ := List.mem_map.1 hlabel
    exact List.all_eq_true.1 (hoctet v.toNat v.toNat_lt)
  have hchars := Idna.isAscii_of_mem_intercalate hoctets
  rw [IPv4.intercalate_octets] at hchars
  rwa [IPv4.toString, String.toList_ofList]

/-- Bytes of ASCII characters are these characters in UTF-8. -/
theorem decodeUtf8_asciiBytes {s : List Char} (h : ∀ c ∈ s, Idna.isAscii c = true) :
    decodeUtf8 (asciiBytes s) = .ok s := by
  have hone : ∀ c ∈ s, String.utf8EncodeChar c = [UInt8.ofNat c.toNat] := by
    intro c hc
    have hlow : c.toNat < 0x80 := by simpa [Idna.isAscii] using h c hc
    have hvalue : (UInt8.ofNat c.toNat).toNat = c.toNat :=
      UInt8.toNat_ofNat_of_lt' (show c.toNat < 256 by omega)
    have hbyte : UInt8.ofNat c.toNat < 0x80 := by
      rw [UInt8.lt_iff_toNat_lt, hvalue]
      exact hlow
    exact (encodeChar_eq_cons_iff_of_lt hbyte).2 ⟨rfl, hvalue.symm⟩
  refine decodeUtf8_eq_ok_iff.2 ?_
  rw [encodeUtf8, asciiBytes, List.map_eq_flatMap]
  exact List.flatMap_congr fun c hc ↦ (hone c hc).symm

/-- **What becomes of a destination** whose port fits its place. A dotted quad is written as four
bytes, and any other name is written in ASCII, or refused. -/
theorem encodeDestination_cases (host : String) (hport : port < 65536) :
    (∃ ip, host = IPv4.toString ip ∧
        encodeDestination host port = .ok (typeIPv4 :: ip.octets ++ shortBytes port)) ∨
      IPv4.isLiteral host = false ∧
        ((∃ cause, Idna.encodeChars host.toList = .error cause ∧
            encodeDestination host port = .error (.refusal (.badName host cause))) ∨
          ∃ s, Idna.encodeChars host.toList = .ok s ∧
            (255 < s.length ∧ encodeDestination host port = .error (.refusal (.longName host)) ∨
              s.length ≤ 255 ∧ encodeDestination host port =
                .ok (typeName :: UInt8.ofNat s.length :: asciiBytes s ++ shortBytes port))) := by
  have hshort : shortField port = .ok (shortBytes port) :=
    shortField_eq_ok_iff.2 ⟨by omega, by omega, rfl⟩
  -- The port is written in any case, so only a name can be refused.
  unfold encodeDestination Idna.encode IPv4.isLiteral
  rw [hshort]
  rcases hparse : IPv4.parse? host with - | ip
  · refine .inr ⟨rfl, ?_⟩
    rcases Idna.encodeChars host.toList with cause | s
    · exact .inl ⟨cause, rfl, rfl⟩
    refine .inr ⟨s, rfl, ?_⟩
    have hlength : (asciiBytes s).length = s.length := List.length_map ..
    rcases Nat.lt_or_ge 255 s.length with hlong | hfits
    · exact .inl ⟨hlong, if_pos (hlength ▸ hlong)⟩
    · refine .inr ⟨hfits, (if_neg (hlength ▸ Nat.not_lt.2 hfits)).trans ?_⟩
      rw [← hlength]
      rfl
  · exact .inl ⟨ip, IPv4.parse?_eq_some_iff.1 hparse, rfl⟩

/-- A destination that is written has a port that fits its place. -/
theorem lt_of_encodeDestination {bytes : Bytes} (h : encodeDestination host port = .ok bytes) :
    port < 65536 := by
  have hports : ∀ bytes, (shortField port).mapError Fault.field = .ok bytes → port < 65536 := by
    intro bytes hbytes
    obtain ⟨-, hhigh, -⟩ := shortField_eq_ok_iff.1 (mapError_eq_ok.1 hbytes)
    omega
  rw [encodeDestination] at h
  split at h
  · obtain ⟨bytes, hbytes, -⟩ := bind_eq_ok.1 h
    exact hports bytes hbytes
  · obtain ⟨name, -, h⟩ := bind_eq_ok.1 h
    split at h
    · contradiction
    obtain ⟨bytes, hbytes, -⟩ := bind_eq_ok.1 h
    exact hports bytes hbytes

/-- The name that is sent for a host: a dotted quad as it is, and any other one in ASCII. -/
def IsSentAs (host read : String) : Prop :=
  IPv4.isLiteral host = true ∧ read = host ∨
    IPv4.isLiteral host = false ∧ Idna.encodeChars host.toList = .ok read.toList

/-- What is sent is ASCII. -/
theorem IsSentAs.isAscii {read : String} (h : IsSentAs host read) :
    ∀ c ∈ read.toList, Idna.isAscii c = true := by
  obtain ⟨hliteral, rfl⟩ | ⟨-, hchars⟩ := h
  · obtain ⟨ip, rfl⟩ := IPv4.isLiteral_iff.1 hliteral
    exact isAscii_of_mem_toString ip
  · exact Idna.isAscii_of_encodeChars hchars

/-- An ASCII name is sent as it is, letter case and all. -/
theorem IsSentAs.eq_of_isAscii {read : String} (h : IsSentAs host read)
    (hascii : ∀ c ∈ host.toList, Idna.isAscii c = true) : read = host := by
  obtain ⟨-, rfl⟩ | ⟨-, hchars⟩ := h
  · rfl
  · exact String.toList_inj.1 ((Idna.encodeChars_ascii hascii).1 hchars).2

/-- **What is written is a host field and a port.** -/
theorem exists_isHostField {bytes : Bytes} (h : encodeDestination host port = .ok bytes) :
    ∃ address read, bytes = address ++ shortBytes port ∧ IsHostField address read ∧
      IsSentAs host read := by
  obtain ⟨ip, rfl, hbytes⟩ | ⟨hname, ⟨cause, -, hrefused⟩ | ⟨s, hchars, hcases⟩⟩ :=
    encodeDestination_cases host (lt_of_encodeDestination h)
  · obtain rfl := Except.ok.inj (hbytes.symm.trans h)
    exact ⟨_, _, rfl, .ipv4 ip, .inl ⟨IPv4.isLiteral_iff.2 ⟨ip, rfl⟩, rfl⟩⟩
  · cases hrefused.symm.trans h
  obtain ⟨-, hrefused⟩ | ⟨hfits, hbytes⟩ := hcases
  · cases hrefused.symm.trans h
  obtain rfl := Except.ok.inj (hbytes.symm.trans h)
  have hlength : (asciiBytes s).length = s.length := List.length_map ..
  have hfield := IsHostField.name (asciiBytes s) s (by omega)
    (decodeUtf8_asciiBytes (Idna.isAscii_of_encodeChars hchars))
  rw [hlength] at hfield
  exact ⟨_, _, rfl, hfield, .inr ⟨hname, by rwa [String.toList_ofList]⟩⟩

/-- **An ASCII name is refused for its length or the length of a label**, and for nothing else. -/
theorem refuses_ascii_iff (hport : port < 65536)
    (hascii : ∀ c ∈ host.toList, Idna.isAscii c = true) (hname : IPv4.isLiteral host = false) :
    (∃ cause, encodeDestination host port = .error (.refusal cause)) ↔
      255 < host.length ∨ Idna.HasBadLabel (fields (· == '.') host.toList) := by
  have hsent := fun s ↦ Idna.encodeChars_ascii (s := s) hascii
  obtain ⟨ip, rfl, -⟩ | ⟨-, ⟨cause, hchars, hrefused⟩ | ⟨s, hchars, hcases⟩⟩ :=
    encodeDestination_cases host hport
  · rw [IPv4.isLiteral_iff.2 ⟨ip, rfl⟩] at hname
    contradiction
  · refine iff_of_true ⟨_, hrefused⟩ (.inr ?_)
    by_contra hgood
    cases hchars.symm.trans ((hsent _).2 ⟨hgood, rfl⟩)
  obtain ⟨hgood, rfl⟩ := (hsent s).1 hchars
  rw [String.length_toList] at hcases
  obtain ⟨hlong, hrefused⟩ | ⟨hfits, hbytes⟩ := hcases
  · exact iff_of_true ⟨_, hrefused⟩ (.inl hlong)
  · rw [hbytes]
    refine iff_of_false (fun ⟨_, h⟩ ↦ nomatch h) (not_or.2 ⟨Nat.not_lt.2 hfits, hgood⟩)

end Writing

/-- **A destination is read as it was written, or it is refused.** Whatever the chunks are and
whatever stands behind it, it is read to its last byte and no further. Its host is the one that was
asked for if that is ASCII, and its form in ASCII otherwise. An ASCII name is refused for its length
or the length of one of its labels, and for nothing else. -/
theorem encodeDestination_reads_back (host : String) {port : Nat} (hport : port < 65536) :
    ((∃ cause, encodeDestination host port = .error (.refusal cause)) ∨
      ∃ bytes read, encodeDestination host port = .ok bytes ∧
        IsSentAs host read ∧ (∀ c ∈ read.toList, Idna.isAscii c = true) ∧
        ((∀ c ∈ host.toList, Idna.isAscii c = true) → read = host) ∧
        ∀ ch rest, ch.unread = bytes ++ rest →
          ∃ ch', readTypedDestination ch = (.ok (some (read, port)), ch') ∧
            ch.Talked bytes [] ch' ∧ ch'.unread = rest) ∧
      ((∀ c ∈ host.toList, Idna.isAscii c = true) → IPv4.isLiteral host = false →
        ((∃ cause, encodeDestination host port = .error (.refusal cause)) ↔
          255 < host.length ∨ Idna.HasBadLabel (fields (· == '.') host.toList))) := by
  refine ⟨?_, refuses_ascii_iff hport⟩
  rcases hencode : encodeDestination host port with fault | bytes
  · refine .inl ?_
    obtain ⟨ip, -, hbytes⟩ | ⟨-, ⟨cause, -, hrefused⟩ | ⟨s, -, ⟨-, hrefused⟩ | ⟨-, hbytes⟩⟩⟩ :=
      encodeDestination_cases host hport
    · cases hbytes.symm.trans hencode
    · exact ⟨_, hencode.symm.trans hrefused⟩
    · exact ⟨_, hencode.symm.trans hrefused⟩
    · cases hbytes.symm.trans hencode
  · obtain ⟨address, read, rfl, hfield, hsent⟩ := exists_isHostField hencode
    exact .inr ⟨_, read, rfl, hsent, hsent.isAscii, hsent.eq_of_isAscii, fun ch rest hunread ↦
      exists_readTypedDestination hfield hport hunread⟩

/-- A destination in four pieces, the last of which goes on with two more bytes. -/
def inPieces : Channel where
  inbound := [[3], [12, 69, 120, 97], [109, 112, 108, 101, 46, 67, 79, 77, 46, 1], [187, 104, 105]]

/-- Letter case and a trailing dot come through. -/
theorem readTypedDestination_letter_case :
    ∃ ch', readTypedDestination inPieces = (.ok (some ("Example.COM.", 443)), ch') ∧
      ch'.unread = [104, 105] := by
  have hbytes : encodeDestination "Example.COM." (443 : Nat) =
      .ok [3, 12, 69, 120, 97, 109, 112, 108, 101, 46, 67, 79, 77, 46, 1, 187] := by
    decide +kernel
  obtain ⟨⟨cause, hrefused⟩ | ⟨bytes, read, hencode, -, -, hsame, hread⟩, -⟩ :=
    encodeDestination_reads_back "Example.COM." (show 443 < 65536 by decide)
  · cases hbytes.symm.trans hrefused
  obtain rfl := Except.ok.inj (hbytes.symm.trans hencode)
  obtain rfl := hsame (List.all_eq_true.1 (by decide))
  obtain ⟨ch', hrun, -, hleft⟩ := hread inPieces [104, 105] rfl
  exact ⟨ch', hrun, hleft⟩

end Socks

end SocksRouter
