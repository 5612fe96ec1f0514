import Mathlib.Data.List.Chain
import SocksRouter.Proofs.Wire.Exact

/-!
# An exact read, read by read

An exact read goes on reading until its message is complete. `Channel.Gathering` is a moment in
this, with the bytes it has and the number of those it misses; a `Channel.Gathering.Step` is one
more read that gives bytes, and `Channel.Gathering.Ends` says what comes of a moment behind which
there is no step.

Each step brings bytes from the front of the stream, so it leaves fewer to be read and fewer to be
missed (`Channel.Gathering.Step.missing_lt`). So there are no more steps than bytes, whatever the
chunks, and the loop is at the end of them (`Channel.exists_gathering`).

`Channel.receiveExact_takes_or_stops` puts this together with what an exact read comes to.
-/

namespace SocksRouter

/-- Steps of which each makes some number smaller are no more than that number. -/
theorem length_le_of_isChain {α : Type} {step : α → α → Prop} (size : α → Nat)
    (hstep : ∀ a b, step a b → size b < size a) {a : α} {later : List α}
    (h : (a :: later).IsChain step) : later.length ≤ size a := by
  induction later generalizing a with
  | nil => exact Nat.zero_le _
  | cons b rest ih =>
    obtain ⟨hab, hrest⟩ := List.isChain_cons_cons.1 h
    have hlower := hstep a b hab
    have hlength := ih hrest
    rw [List.length_cons]
    omega

namespace Channel

variable {ch ch' : Channel} {size : Nat}

/-! ### Moments of an exact read -/

/-- A moment of an exact read. -/
structure Gathering where
  /-- The bytes that have been read. -/
  got : Bytes := []
  /-- How many bytes are missing. -/
  missing : Nat
  /-- The channel. -/
  channel : Channel

namespace Gathering

/-- Bytes are missing, and a read gives some. -/
inductive Step : Gathering → Gathering → Prop
  | read {got : Bytes} {missing : Nat} {ch ch' : Channel} {b : UInt8} {rest : Bytes}
      (hmissing : missing ≠ 0) (hreceive : ch.receive missing = (.ok (b :: rest), ch')) :
      Step ⟨got, missing, ch⟩ ⟨got ++ b :: rest, missing - (rest.length + 1), ch'⟩

/-- What comes of the last moment. -/
inductive Ends : Gathering → Except Fault Bytes × Channel → Prop
  /-- Nothing is missing. -/
  | complete {got : Bytes} {ch : Channel} : Ends ⟨got, 0, ch⟩ (.ok got, ch)
  /-- The stream has ended. -/
  | closed {got : Bytes} {missing : Nat} {ch ch' : Channel} (hmissing : missing ≠ 0)
      (hreceive : ch.receive missing = (.ok [], ch')) :
      Ends ⟨got, missing, ch⟩ (.error (.closedEarly got.length (got.length + missing)), ch')
  /-- The read failed. -/
  | failed {got : Bytes} {missing : Nat} {ch ch' : Channel} {fault : Fault}
      (hmissing : missing ≠ 0) (hreceive : ch.receive missing = (.error fault, ch')) :
      Ends ⟨got, missing, ch⟩ (.error fault, ch')

variable {moment next : Gathering}

/-- **A step takes from the front of the stream what it adds to the bytes.** -/
theorem Step.append_unread (h : moment.Step next) :
    next.got ++ next.channel.unread = moment.got ++ moment.channel.unread := by
  cases h with
  | read hmissing hreceive =>
    obtain ⟨inbound, rfl, -, hunread⟩ := receive_eq_ok_cons hmissing hreceive
    rw [hunread, List.append_assoc]
    rfl

/-- It brings no more than is missing. -/
theorem Step.length_add_missing (h : moment.Step next) :
    next.got.length + next.missing = moment.got.length + moment.missing := by
  cases h with
  | read hmissing hreceive =>
    obtain ⟨inbound, -, hlength, -⟩ := receive_eq_ok_cons hmissing hreceive
    dsimp only
    rw [List.length_append, List.length_cons]
    omega

theorem Step.missing_lt (h : moment.Step next) : next.missing < moment.missing := by
  cases h with
  | read hmissing hreceive =>
    dsimp only
    omega

theorem Step.length_unread_lt (h : moment.Step next) :
    next.channel.unread.length < moment.channel.unread.length := by
  have hgot := h.length_add_missing
  have hmissing := h.missing_lt
  have hall := congrArg List.length h.append_unread
  rw [List.length_append, List.length_append] at hall
  omega

end Gathering

/-- **The loop goes step by step to the end.** -/
theorem exists_gathering (got : Bytes) (missing : Nat) (ch : Channel) :
    ∃ later, List.IsChain Gathering.Step (⟨got, missing, ch⟩ :: later) ∧
      ((⟨got, missing, ch⟩ :: later).getLast (List.cons_ne_nil _ _)).Ends
        (receiveFrom got missing ch) := by
  fun_induction receiveFrom got missing ch with
  | case1 got ch => exact ⟨[], .singleton _, .complete⟩
  | case2 got missing ch hmissing fault mid hreceive =>
    exact ⟨[], .singleton _, .failed hmissing hreceive⟩
  | case3 got missing ch hmissing mid hreceive =>
    exact ⟨[], .singleton _, .closed hmissing hreceive⟩
  | case4 got missing ch hmissing b rest mid hreceive ih =>
    obtain ⟨later, hchain, hends⟩ := ih
    refine ⟨_ :: later, .cons_cons (.read hmissing hreceive) hchain, ?_⟩
    rwa [List.getLast_cons_cons]

/-! ### What an exact read comes to -/

/-- Exactly the first bytes are taken, and nothing else about the channel changes. -/
structure TakesFirst (size : Nat) (ch : Channel) (result : Except Fault Bytes × Channel) :
    Prop where
  /-- The bytes are the first of the stream. -/
  outcome_eq : result.1 = .ok (ch.unread.take size)
  /-- The others are left. -/
  unread_eq : result.2.unread = ch.unread.drop size
  /-- Only what is to be read has changed. -/
  channel_eq : ∃ inbound, result.2 = { ch with inbound }
  /-- Reading no bytes touches nothing. -/
  eq_of_zero : size = 0 → result.2 = ch

/-- All bytes are taken, and the fault tells why there were no more. -/
structure StopsShort (size : Nat) (ch : Channel) (result : Except Fault Bytes × Channel) :
    Prop where
  /-- Nothing is left, and nothing else about the channel changes. -/
  channel_eq : result.2 = { ch with inbound := [] }
  /-- The stream has ended, nothing more came in time, or it broke. -/
  outcome_cases :
    (ch.ending = .finished ∧ result.1 = .error (.closedEarly ch.unread.length size) ∧
        (Fault.closedEarly ch.unread.length size).message =
          s!"Connection closed after {ch.unread.length} of {size} bytes") ∨
      (ch.ending = .silent ∧ result.1 = .error .timedOut) ∨
        ch.ending = .broken ∧ result.1 = .error .reset

theorem takesFirst_of_le (h : size ≤ ch.unread.length) :
    TakesFirst size ch (receiveExact size ch) := by
  obtain ⟨inbound, hleft, hreceive⟩ := receiveExact_of_le h
  rw [hreceive]
  refine ⟨rfl, hleft, ⟨inbound, rfl⟩, ?_⟩
  rintro rfl
  have hnone : receiveExact 0 ch = (.ok [], ch) := by rw [receiveExact, receiveFrom, if_pos rfl]
  exact congrArg Prod.snd (hreceive.symm.trans hnone)

theorem stopsShort_of_lt (h : ch.unread.length < size) :
    StopsShort size ch (receiveExact size ch) := by
  rw [receiveExact_of_lt h]
  refine ⟨rfl, ?_⟩
  cases hending : ch.ending with
  | finished => exact .inl ⟨rfl, rfl, rfl⟩
  | silent => exact .inr (.inl ⟨rfl, rfl⟩)
  | broken => exact .inr (.inr ⟨rfl, rfl⟩)

theorem TakesFirst.not_stopsShort {result : Except Fault Bytes × Channel}
    (h : TakesFirst size ch result) : ¬StopsShort size ch result := by
  rintro ⟨-, ⟨-, hfault, -⟩ | ⟨-, hfault⟩ | ⟨-, hfault⟩⟩ <;>
    · rw [h.outcome_eq] at hfault
      contradiction

/-- **An exact read takes what it was asked for, or all there is.** If there are enough bytes, and
only then, it gives the first of them and leaves exactly the others; otherwise it has taken all of
them, and its fault tells how many there were, or how the stream stopped. It comes to an end: no
more reads give bytes than are asked for, nor than there are, and the last moment of the loop has
the answer. -/
theorem receiveExact_takes_or_stops (size : Nat) (ch : Channel) :
    (TakesFirst size ch (receiveExact size ch) ↔ size ≤ ch.unread.length) ∧
      (StopsShort size ch (receiveExact size ch) ↔ ch.unread.length < size) ∧
      (∀ later, List.IsChain Gathering.Step (⟨[], size, ch⟩ :: later) →
        later.length ≤ size ∧ later.length ≤ ch.unread.length) ∧
      ∃ later, List.IsChain Gathering.Step (⟨[], size, ch⟩ :: later) ∧
        ((⟨[], size, ch⟩ :: later).getLast (List.cons_ne_nil _ _)).Ends (receiveExact size ch) := by
  refine ⟨⟨fun htakes ↦ ?_, takesFirst_of_le⟩, ⟨fun hstops ↦ ?_, stopsShort_of_lt⟩,
    fun later hchain ↦ ⟨?_, ?_⟩, exists_gathering [] size ch⟩
  · by_contra hfew
    exact htakes.not_stopsShort (stopsShort_of_lt (Nat.lt_of_not_le hfew))
  · by_contra henough
    exact (takesFirst_of_le (Nat.le_of_not_lt henough)).not_stopsShort hstops
  · exact length_le_of_isChain Gathering.missing (fun _ _ hstep ↦ hstep.missing_lt) hchain
  · exact length_le_of_isChain (fun moment ↦ moment.channel.unread.length)
      (fun _ _ hstep ↦ hstep.length_unread_lt) hchain

end Channel

end SocksRouter
