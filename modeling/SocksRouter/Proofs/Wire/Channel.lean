import SocksRouter.Proofs.Outcome
import SocksRouter.Proofs.Wire.Exact

/-!
# What an operation does to a channel

An operation on a channel takes bytes from the front of what is to be read and adds bytes behind
what was sent. `Channel.Talked` says which ones, and that nothing else about the channel has
changed. It composes (`Channel.Talked.trans`), so what a handshake heard and said is what its parts
heard and said, one after another, and no reader can take a byte that the next one needs.

* Reading an exact number of bytes hears **exactly these**, the first of the stream, however it is
  cut into chunks (`Channel.receiveExact_eq_ok`).
* It fails **only if there are too few** (`Channel.receiveExact_eq_error`).
* Sending says all of the bytes or none of them.

An operation that only reads is described by a grammar: for each result the bytes that it was read
from (`Channel.Reads`). Grammars are put together as the operations are (`Channel.Reads.bind`).
-/

namespace SocksRouter.Channel

open Outcome

variable {ch ch' ch'' : Channel}

/-! ### Streams -/

theorem unread_isPrefix (ch : Channel) : ch.unread <+: ch.stream :=
  List.prefix_append _ _

theorem stream_eq_unread (h : ch.overdue = []) : ch.stream = ch.unread := by
  rw [stream, h, List.append_nil]

/-- Nothing comes behind the end of a stream. -/
theorem overdue_of_finished (h : ch.ending = .finished) : ch.overdue = [] :=
  if_neg (by rw [h]; decide)

/-! ### Bytes heard and said -/

/-- The channel `ch'` is what `ch` has become after `heard` was read from it and `said` was sent;
time limits may have been set as well. -/
def Talked (ch : Channel) (heard said : Bytes) (ch' : Channel) : Prop :=
  ∃ inbound timeouts, ch.unread = heard ++ inbound.flatten ∧
    ch' = { ch with inbound, timeouts, sent := ch.sent ++ said }

theorem Talked.refl (ch : Channel) : ch.Talked [] [] ch :=
  ⟨ch.inbound, ch.timeouts, rfl, by simp⟩

/-- **Talk adds up.** -/
theorem Talked.trans {heard said heard' said' : Bytes} (h : ch.Talked heard said ch')
    (h' : ch'.Talked heard' said' ch'') :
    ch.Talked (heard ++ heard') (said ++ said') ch'' := by
  obtain ⟨inbound, timeouts, hunread, rfl⟩ := h
  obtain ⟨inbound', timeouts', hunread', rfl⟩ := h'
  refine ⟨inbound', timeouts', ?_, ?_⟩
  · rw [hunread, List.append_assoc]
    exact congrArg _ hunread'
  · simp

variable {heard said : Bytes}

theorem Talked.hear {more : Bytes} (h : ch.Talked heard said ch') (h' : ch'.Talked more [] ch'') :
    ch.Talked (heard ++ more) said ch'' := by
  have := h.trans h'
  rwa [List.append_nil] at this

theorem Talked.say {more : Bytes} (h : ch.Talked heard said ch') (h' : ch'.Talked [] more ch'') :
    ch.Talked heard (said ++ more) ch'' := by
  have := h.trans h'
  rwa [List.append_nil] at this

theorem Talked.unread_eq (h : ch.Talked heard said ch') : ch.unread = heard ++ ch'.unread := by
  obtain ⟨inbound, timeouts, hunread, rfl⟩ := h
  exact hunread

theorem Talked.overdue_eq (h : ch.Talked heard said ch') : ch'.overdue = ch.overdue := by
  obtain ⟨inbound, timeouts, hunread, rfl⟩ := h
  rfl

/-- What comes too late stays in the stream behind what is heard. -/
theorem Talked.stream_eq (h : ch.Talked heard said ch') : ch.stream = heard ++ ch'.stream := by
  rw [stream, stream, h.unread_eq, h.overdue_eq, List.append_assoc]

theorem Talked.sent_eq (h : ch.Talked heard said ch') : ch'.sent = ch.sent ++ said := by
  obtain ⟨inbound, timeouts, hunread, rfl⟩ := h
  rfl

theorem Talked.sendLimit_eq (h : ch.Talked heard said ch') : ch'.sendLimit = ch.sendLimit := by
  obtain ⟨inbound, timeouts, hunread, rfl⟩ := h
  rfl

theorem Talked.closeFails_eq (h : ch.Talked heard said ch') : ch'.closeFails = ch.closeFails := by
  obtain ⟨inbound, timeouts, hunread, rfl⟩ := h
  rfl

theorem Talked.closes_eq (h : ch.Talked heard said ch') : ch'.closes = ch.closes := by
  obtain ⟨inbound, timeouts, hunread, rfl⟩ := h
  rfl

theorem Talked.sent_isPrefix (h : ch.Talked heard said ch') : ch.sent <+: ch'.sent :=
  ⟨said, h.sent_eq.symm⟩

/-! ### Reading -/

/-- **Reading an exact number of bytes hears exactly these.** -/
theorem receiveExact_eq_ok {size : Nat} {data : Bytes}
    (h : receiveExact size ch = (.ok data, ch')) :
    data.length = size ∧ ch.Talked data [] ch' := by
  rcases Nat.lt_or_ge ch.unread.length size with hfew | henough
  · rw [receiveExact_of_lt hfew] at h
    cases (Prod.mk.inj h).1
  · obtain ⟨inbound, hleft, hreceive⟩ := receiveExact_of_le henough
    obtain ⟨hdata, rfl⟩ := Prod.mk.inj (hreceive.symm.trans h)
    obtain rfl := Except.ok.inj hdata
    refine ⟨List.length_take_of_le henough, inbound, ch.timeouts, ?_, by simp⟩
    rw [hleft, List.take_append_drop]

/-- **It fails only if there are too few**, and then it has heard them all. -/
theorem receiveExact_eq_error {size : Nat} {fault : Fault}
    (h : receiveExact size ch = (.error fault, ch')) :
    ch.unread.length < size ∧ ch.Talked ch.unread [] ch' := by
  rcases Nat.lt_or_ge ch.unread.length size with hfew | henough
  · rw [receiveExact_of_lt hfew] at h
    obtain ⟨-, rfl⟩ := Prod.mk.inj h
    exact ⟨hfew, [], ch.timeouts, by simp, by simp⟩
  · obtain ⟨inbound, -, hreceive⟩ := receiveExact_of_le henough
    rw [hreceive] at h
    cases (Prod.mk.inj h).1

/-- What stands at the front of a stream is read from it. -/
theorem exists_receiveExact {data rest : Bytes} (h : ch.unread = data ++ rest) {size : Nat}
    (hsize : data.length = size) :
    ∃ ch', receiveExact size ch = (.ok data, ch') ∧ ch.Talked data [] ch' ∧ ch'.unread = rest := by
  rcases hread : receiveExact size ch with ⟨fault | got, ch'⟩
  · obtain ⟨hfew, -⟩ := receiveExact_eq_error hread
    rw [h, List.length_append] at hfew
    omega
  · obtain ⟨hlength, htalked⟩ := receiveExact_eq_ok hread
    obtain ⟨rfl, hrest⟩ := List.append_inj (h.symm.trans htalked.unread_eq) (by omega)
    exact ⟨ch', rfl, htalked, hrest.symm⟩

/-- What stops it is a fault of the connection. -/
theorem isSystem_of_receiveExact {size : Nat} {fault : Fault}
    (h : receiveExact size ch = (.error fault, ch')) : fault.isSystem = true := by
  rw [receiveExact_of_lt (receiveExact_eq_error h).1] at h
  rw [← Except.error.inj (Prod.mk.inj h).1]
  exact ch.ending.isSystem_fault _ _

/-- Reading says nothing, whatever comes of it. -/
theorem talked_of_receiveExact {size : Nat} {outcome : Except Fault Bytes}
    (h : receiveExact size ch = (outcome, ch')) : ∃ heard, ch.Talked heard [] ch' := by
  rcases outcome with fault | data
  · exact ⟨_, (receiveExact_eq_error h).2⟩
  · exact ⟨_, (receiveExact_eq_ok h).2⟩

/-! ### Sending and the rest -/

theorem send_eq_ok {data : Bytes} (h : ch.send data = (.ok (), ch')) : ch.Talked [] data ch' := by
  obtain ⟨limit, -, -, hsend⟩ | ⟨-, hsend⟩ := ch.send_cases data
  · rw [hsend] at h
    simp at h
  · obtain ⟨-, rfl⟩ := Prod.mk.inj (hsend.symm.trans h)
    exact ⟨ch.inbound, ch.timeouts, rfl, rfl⟩

/-- Sending fails beyond the limit only, and then it says nothing. -/
theorem send_eq_error {data : Bytes} {fault : Fault} (h : ch.send data = (.error fault, ch')) :
    ch' = ch ∧ ch.sendLimit ≠ none := by
  obtain ⟨limit, hlimit, -, hsend⟩ | ⟨-, hsend⟩ := ch.send_cases data
  · obtain ⟨-, rfl⟩ := Prod.mk.inj (hsend.symm.trans h)
    exact ⟨rfl, by simp [hlimit]⟩
  · rw [hsend] at h
    simp at h

/-- The channel takes these bytes. -/
def Takes (ch : Channel) (data : Bytes) : Prop :=
  ∀ limit ∈ ch.sendLimit, ch.sent.length + data.length ≤ limit

/-- Without a limit all bytes are taken. -/
theorem takes_of_sendLimit (h : ch.sendLimit = none) (data : Bytes) : ch.Takes data := by
  simp [Takes, h]

/-- What is taken after something has been said would have been taken with it. -/
theorem Takes.of_talked {more : Bytes} (h : ch.Takes (said ++ more))
    (htalked : ch.Talked heard said ch') : ch'.Takes more := by
  intro limit hlimit
  rw [htalked.sendLimit_eq] at hlimit
  have hwithin := h limit hlimit
  rw [List.length_append] at hwithin
  rw [htalked.sent_eq, List.length_append]
  omega

/-- What is taken is sent. -/
theorem Takes.exists_sendAll {data : Bytes} (h : ch.Takes data) :
    ∃ ch', sendAll data ch = (.ok (), ch') ∧ ch.Talked [] data ch' := by
  obtain ⟨limit, hlimit, hbeyond, -⟩ | ⟨-, hsend⟩ := ch.send_cases data
  · have hwithin := h limit hlimit
    omega
  · exact ⟨_, hsend, send_eq_ok hsend⟩

theorem talked_setTimeout (ch : Channel) (limit : Option Seconds) :
    ch.Talked [] [] (ch.setTimeout limit) :=
  ⟨ch.inbound, _, rfl, by simp [setTimeout]; rfl⟩

theorem ofOutcome_apply_eq_iff {α : Type} {outcome outcome' : Except Fault α} :
    ofOutcome outcome ch = (outcome', ch') ↔ outcome = outcome' ∧ ch = ch' :=
  iff_of_eq (Prod.mk.injEq ..)

/-! ### Operations that only read -/

variable {α β : Type}

/-- The operation only reads: whatever comes of it, nothing is said, and the bytes that it hears
when it gives a result are as `grammar` says. -/
def Reads (operation : OnChannel α) (grammar : α → Bytes → Prop) : Prop :=
  ∀ ch outcome ch', operation ch = (outcome, ch') →
    ∃ heard, ch.Talked heard [] ch' ∧ ∀ a, outcome = .ok a → grammar a heard

theorem reads_receiveExact (size : Nat) :
    Reads (receiveExact size) fun data heard ↦ data = heard ∧ data.length = size := by
  rintro ch (fault | data) ch' h
  · exact ⟨_, (receiveExact_eq_error h).2, by simp⟩
  · obtain ⟨hlength, htalked⟩ := receiveExact_eq_ok h
    refine ⟨data, htalked, fun a ha ↦ ?_⟩
    obtain rfl := Except.ok.inj ha
    exact ⟨rfl, hlength⟩

theorem reads_pure {a : α} {grammar : α → Bytes → Prop} (h : grammar a []) :
    Reads (pure a) grammar := by
  intro ch outcome ch' hpure
  obtain ⟨rfl, rfl⟩ := Prod.mk.inj hpure
  refine ⟨[], .refl ch, fun b hb ↦ ?_⟩
  rwa [← Except.ok.inj hb]

theorem reads_throw {fault : Fault} {grammar : α → Bytes → Prop} :
    Reads (throw fault) grammar := by
  intro ch outcome ch' hthrow
  obtain ⟨rfl, rfl⟩ := Prod.mk.inj hthrow
  exact ⟨[], .refl ch, by simp⟩

theorem reads_ofOutcome {outcome : Except Fault α} {grammar : α → Bytes → Prop}
    (h : ∀ a, outcome = .ok a → grammar a []) : Reads (ofOutcome outcome) grammar := by
  intro ch outcome' ch' hoperation
  obtain ⟨rfl, rfl⟩ := ofOutcome_apply_eq_iff.1 hoperation
  exact ⟨[], .refl ch, h⟩

/-- **What is read in two steps is read as one message**, the second part behind the first. -/
theorem Reads.bind {operation : OnChannel α} {next : α → OnChannel β}
    {first : α → Bytes → Prop} {grammar : β → Bytes → Prop} (h : Reads operation first)
    (hnext : ∀ a heard, first a heard → Reads (next a) fun b rest ↦ grammar b (heard ++ rest)) :
    Reads (operation >>= next) grammar := by
  intro ch outcome ch' hrun
  rcases bind_apply_eq_iff.1 hrun with ⟨fault, hfailed, rfl⟩ | ⟨a, mid, ha, hb⟩
  · obtain ⟨heard, htalked, -⟩ := h _ _ _ hfailed
    exact ⟨heard, htalked, by simp⟩
  · obtain ⟨heard, htalked, hfirst⟩ := h _ _ _ ha
    obtain ⟨rest, htalked', hrest⟩ := hnext a heard (hfirst a rfl) _ _ _ hb
    exact ⟨heard ++ rest, htalked.hear htalked', hrest⟩

theorem Reads.discard {operation : OnChannel α} {first : α → Bytes → Prop}
    {grammar : Unit → Bytes → Prop} (h : Reads operation first)
    (hdiscard : ∀ a heard, first a heard → grammar () heard) :
    Reads (discard operation) grammar :=
  h.bind fun a heard ha ↦ reads_pure ((List.append_nil heard).symm ▸ hdiscard a heard ha)

end SocksRouter.Channel
