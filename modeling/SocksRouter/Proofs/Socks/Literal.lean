import Mathlib.Data.Nat.Digits.Defs
import SocksRouter.Proofs.Address.Partition
import SocksRouter.Proofs.Engine.Decision
import SocksRouter.Proofs.Socks.Destination

/-!
# An address that a client sends is kept

A client may ask for a destination by four bytes. From then on its host is a text, and that is
looked at in several places: it is resolved, matched with the blocks of rules, and written for a
forward proxy. `StandsFor` says that every one of them finds the four bytes again, with the number
that they spell, and that none of them asks anybody for it. The text of an address stands for that
address (`standsFor_toString`), and no text that is taken for an address is anything else
(`IPv4.existsUnique_toString`).
-/

namespace SocksRouter

open Outcome Socks

/-! ### Four bytes as a number -/

/-- The number that bytes spell, most significant first. -/
def bigEndian (bytes : Bytes) : Nat :=
  Nat.ofDigits 256 (bytes.reverse.map UInt8.toNat)

theorem IPv4.toNat_eq_bigEndian (ip : IPv4) : ip.toNat = bigEndian ip.octets := by
  simp only [bigEndian, octets, toNat, List.reverse_cons, List.reverse_nil, List.nil_append,
    List.cons_append, List.map_cons, List.map_nil, Nat.ofDigits_cons, Nat.ofDigits_nil]
  omega

/-! ### What a host stands for -/

/-- The host is taken for this address, wherever it is looked at. -/
structure StandsFor (host : String) (ip : IPv4) : Prop where
  /-- It is known for an address. -/
  isLiteral : IPv4.isLiteral host = true
  /-- It is its own answer, and nobody is asked for it. -/
  resolves : ∀ (resolver : Resolver) (turns : Nat → NameService),
    (resolver.resolveInTurns turns host).run = ⟨.ok host, []⟩
  /-- Its number is the one that the four bytes spell. -/
  value_eq : (IPv4.parse host).map IPv4.toNat = .ok (bigEndian ip.octets)
  /-- It is that number which is looked for in a block. -/
  matchText_eq : ∀ (cidr : String) (base : IPv4) (bits : Nat), Block.IsText cidr base bits →
    Block.matchText host cidr =
      .ok (decide (Block.InBlock base.toNat bits (bigEndian ip.octets)))
  /-- And so it is by a rule that has the block, when the host is to be decided about. -/
  trial_eq : ∀ (engine : Engine) (resolver : Resolver) (turns : Nat → NameService),
    engine.addresses = resolver.resolveInTurns turns →
      ∀ (rule : Rule) (base : IPv4) (bits : Nat), rule.kind = .ipCidr →
        Block.IsText rule.patternText base bits →
          (engine.trial host rule).value =
            .ok (decide (Block.InBlock base.toNat bits (bigEndian ip.octets)))
  /-- It is written as the four bytes. -/
  encodes : ∀ high low : UInt8, encodeDestination host (shortValue high low) =
    .ok (typeIPv4 :: ip.octets ++ [high, low])

/-- A rule that has a block looks for the number of the address in it. -/
theorem trial_toString {engine : Engine} {resolver : Resolver} {turns : Nat → NameService}
    (hsource : engine.addresses = resolver.resolveInTurns turns) {rule : Rule} {base : IPv4}
    {bits : Nat} (hkind : rule.kind = .ipCidr) (htext : Block.IsText rule.patternText base bits)
    (ip : IPv4) :
    (engine.trial ip.toString rule).value =
      .ok (decide (Block.InBlock base.toNat bits ip.toNat)) := by
  have hliteral : IPv4.isLiteral ip.toString = true := IPv4.isLiteral_iff.2 ⟨ip, rfl⟩
  have haddress : engine.addressOf ip.toString = ip.toString := by
    rw [Engine.addressOf, hsource, resolver.resolveInTurns_of_isLiteral turns hliteral]
  have hblock : Engine.matchesBlock rule ip.toString =
      pure (decide (Block.InBlock base.toNat bits ip.toNat)) := by
    rw [Engine.matchesBlock, hliteral, htext.matchText_eq ip]
    rfl
  rw [Engine.trial, Engine.applies, haddress, hkind, hblock]
  rfl

/-- The text of an address is written as its four bytes. -/
theorem encodeDestination_toString (ip : IPv4) {port : Nat} (hport : port < 65536) :
    encodeDestination ip.toString port = .ok (typeIPv4 :: ip.octets ++ shortBytes port) := by
  obtain ⟨other, hother, hbytes⟩ | ⟨hname, -⟩ := encodeDestination_cases ip.toString hport
  · obtain rfl := IPv4.toString_inj.1 hother
    exact hbytes
  · rw [IPv4.isLiteral_iff.2 ⟨ip, rfl⟩] at hname
    contradiction

/-- **The text of an address stands for that address.** -/
theorem standsFor_toString (ip : IPv4) : StandsFor ip.toString ip where
  isLiteral := IPv4.isLiteral_iff.2 ⟨ip, rfl⟩
  resolves resolver turns :=
    resolver.resolveInTurns_of_isLiteral turns (IPv4.isLiteral_iff.2 ⟨ip, rfl⟩)
  value_eq := by
    rw [ip.parse_toString, ← ip.toNat_eq_bigEndian]
    rfl
  matchText_eq cidr base bits htext := by
    rw [htext.matchText_eq ip, ip.toNat_eq_bigEndian]
  trial_eq engine resolver turns hsource rule base bits hkind htext := by
    rw [trial_toString hsource hkind htext, ip.toNat_eq_bigEndian]
  encodes high low := by
    rw [encodeDestination_toString ip (shortValue_lt high low), shortBytes_shortValue]

namespace Socks

/-- **An address that a client sends is kept.** A request by four bytes is read in any chunks, and
its host stands for these four bytes wherever it is looked at. Nothing else is taken for an address:
every such text is the host of exactly one request. -/
theorem readRequest_standsFor :
    (∀ (ip : IPv4) (reserved high low : UInt8) (ch : Channel) (rest : Bytes),
      ch.unread = version :: connectCommand :: reserved :: typeIPv4 :: ip.octets ++
          (high :: low :: rest) →
        ∃ ch', readRequest ch =
            (.ok ⟨version, connectCommand, some (ip.toString, shortValue high low)⟩, ch') ∧
          ch'.unread = rest ∧ StandsFor ip.toString ip) ∧
      ∀ text : String, IPv4.isLiteral text = true → ∃! ip : IPv4, text = ip.toString := by
  refine ⟨fun ip reserved high low ch rest hunread ↦ ?_, fun text ↦ IPv4.existsUnique_toString⟩
  have hrequest : IsRequest version connectCommand
      (version :: connectCommand :: reserved :: (typeIPv4 :: ip.octets) ++
        shortBytes (shortValue high low)) ip.toString (shortValue high low) :=
    .intro reserved (.ipv4 ip) (shortValue_lt high low)
  rw [shortBytes_shortValue] at hrequest
  have hbehind : ch.unread = (version :: connectCommand :: reserved :: (typeIPv4 :: ip.octets) ++
      [high, low]) ++ rest := by
    rw [hunread]
    simp
  obtain ⟨ch', hread, -, hleft⟩ := exists_readRequest hrequest hbehind
  exact ⟨ch', hread, hleft, standsFor_toString ip⟩

/-- A request for four bytes in three pieces, and one byte behind it. -/
def byAddress : Channel where
  inbound := [[5, 1], [0, 1, 10, 1], [2, 3, 1, 187, 104]]

/-- The four bytes are found again in the number of the host, and they are sent again. -/
theorem readRequest_standsFor_byAddress :
    ∃ ch', readRequest byAddress = (.ok ⟨5, 1, some ("10.1.2.3", 443)⟩, ch') ∧
      ch'.unread = [104] ∧ (IPv4.parse "10.1.2.3").map IPv4.toNat = .ok 0x0A010203 ∧
      encodeDestination "10.1.2.3" (443 : Nat) = .ok [1, 10, 1, 2, 3, 1, 187] := by
  have htext : IPv4.toString ⟨10, 1, 2, 3⟩ = "10.1.2.3" := by decide +kernel
  obtain ⟨ch', hread, hleft, hstands⟩ :=
    readRequest_standsFor.1 ⟨10, 1, 2, 3⟩ 0 1 187 byAddress [104] rfl
  rw [htext] at hread hstands
  exact ⟨ch', hread, hleft, hstands.value_eq, hstands.encodes 1 187⟩

end Socks

end SocksRouter
