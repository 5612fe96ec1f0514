import SocksRouter.Wire.Exact

/-!
# Reading, to the letter

What a read gives, what it leaves, and how it fails, as equations. A read gives some of the bytes
that are still to be read, or there are none and it tells how the stream ends
(`Channel.receive_cases`). An exact read comes to one of two results, by the number of bytes that
are still to be read: the first of them, with exactly the others left
(`Channel.receiveExact_of_le`), or a fault that names how many there were and how the stream ended
(`Channel.receiveExact_of_lt`).

None of this mentions chunks but as what is left, so it is where it is seen that chunks do not
matter.
-/

namespace SocksRouter

namespace Ending

/-- What a read gives when no bytes are left. -/
def answer : Ending → Except Fault Bytes
  | finished => .ok []
  | silent => .error .timedOut
  | broken => .error .reset

theorem answer_cases (ending : Ending) :
    ending = finished ∧ ending.answer = .ok [] ∨
      ending = silent ∧ ending.answer = .error .timedOut ∨
        ending = broken ∧ ending.answer = .error .reset := by
  cases ending <;> simp [answer]

/-- What stops a message of `wanted` bytes when only `got` of them are there. -/
def fault (got wanted : Nat) : Ending → Fault
  | finished => .closedEarly got wanted
  | silent => .timedOut
  | broken => .reset

/-- Whichever way a stream ends, that is a fault of the connection. -/
theorem isSystem_fault (ending : Ending) (got wanted : Nat) :
    (ending.fault got wanted).isSystem = true := by
  cases ending <;> rfl

end Ending

namespace Channel

variable {ch : Channel}

@[simp] theorem flatten_afterRead (left : Bytes) (rest : List Bytes) :
    (afterRead left rest).flatten = left ++ rest.flatten := by
  unfold afterRead
  split
  · rename_i h
    rw [List.isEmpty_iff.1 h, List.nil_append]
  · rfl

theorem not_isEmpty_of_dropWhile_eq_cons {chunks rest : List Bytes} {chunk : Bytes}
    (h : chunks.dropWhile List.isEmpty = chunk :: rest) : chunk ≠ [] := by
  have := List.head?_dropWhile_not List.isEmpty chunks
  rw [h] at this
  simpa using this

/-- **A read gives bytes, or it tells how the stream ends.** -/
theorem receive_cases {limit : Nat} (hlimit : 0 < limit) (ch : Channel) :
    (∃ data inbound, data ≠ [] ∧ data.length ≤ limit ∧ ch.unread = data ++ inbound.flatten ∧
        ch.receive limit = (.ok data, { ch with inbound })) ∨
      ch.unread = [] ∧ ch.receive limit = (ch.ending.answer, { ch with inbound := [] }) := by
  have hunread := flatten_dropWhile_isEmpty ch.inbound
  rw [receive]
  split
  · rename_i chunk rest hchunks
    have hchunk := not_isEmpty_of_dropWhile_eq_cons hchunks
    have hsplit : ch.unread =
        chunk.take limit ++ (afterRead (chunk.drop limit) rest).flatten := by
      rw [unread, ← hunread, hchunks, flatten_afterRead, ← List.append_assoc,
        List.take_append_drop, List.flatten_cons]
    refine .inl ⟨_, _, fun hempty ↦ ?_, List.length_take_le _ _, hsplit, rfl⟩
    rcases List.take_eq_nil_iff.1 hempty with hzero | hnone
    · omega
    · exact hchunk hnone
  · rename_i hchunks
    rw [hchunks] at hunread
    refine .inr ⟨hunread.symm, ?_⟩
    cases ch.ending <;> rfl

/-- Bytes are sent up to the limit, all or none. -/
theorem send_cases (ch : Channel) (data : Bytes) :
    (∃ limit, ch.sendLimit = some limit ∧ limit < ch.sent.length + data.length ∧
        ch.send data = (.error .brokenPipe, ch)) ∨
      (∀ limit ∈ ch.sendLimit, ch.sent.length + data.length ≤ limit) ∧
        ch.send data = (.ok (), { ch with sent := ch.sent ++ data }) := by
  rw [send]
  split
  · rename_i hbeyond
    obtain ⟨limit, hlimit, hbeyond⟩ := (Option.any_eq_true _ _).1 hbeyond
    exact .inl ⟨limit, hlimit, by simpa using hbeyond, rfl⟩
  · rename_i hwithin
    refine .inr ⟨fun limit hlimit ↦ ?_, rfl⟩
    rw [Option.mem_def.1 hlimit] at hwithin
    simpa using hwithin

theorem shutdown_cases (ch : Channel) (way : Shutdown) :
    ch.shutdownFails = true ∧ ch.shutdown way = (.error .notConnected, ch) ∨
      ch.shutdownFails = false ∧
        ch.shutdown way = (.ok (), { ch with shutdowns := ch.shutdowns ++ [way] }) := by
  rw [shutdown]
  cases ch.shutdownFails with
  | true => exact .inl ⟨rfl, rfl⟩
  | false => exact .inr ⟨rfl, rfl⟩

/-- Bytes that were read are the first of those that were to be read. -/
theorem receive_eq_ok_cons {missing : Nat} {b : UInt8} {rest : Bytes} {mid : Channel}
    (hmissing : missing ≠ 0) (h : ch.receive missing = (.ok (b :: rest), mid)) :
    ∃ inbound, mid = { ch with inbound } ∧ rest.length + 1 ≤ missing ∧
      ch.unread = (b :: rest) ++ inbound.flatten := by
  obtain ⟨data, inbound, -, hlength, hunread, hreceive⟩ | ⟨-, hreceive⟩ :=
    receive_cases (Nat.pos_of_ne_zero hmissing) ch
  · obtain ⟨hdata, rfl⟩ := Prod.mk.inj (hreceive.symm.trans h)
    obtain rfl := Except.ok.inj hdata
    exact ⟨inbound, rfl, hlength, hunread⟩
  · have hanswer := (Prod.mk.inj (hreceive.symm.trans h)).1
    cases hending : ch.ending <;> simp [hending, Ending.answer] at hanswer

/-- What gives no bytes is the end of the stream. -/
theorem receive_eq_end {missing : Nat} {outcome : Except Fault Bytes} {mid : Channel}
    (hmissing : missing ≠ 0) (h : ch.receive missing = (outcome, mid))
    (hnone : ∀ b rest, outcome ≠ .ok (b :: rest)) :
    ch.unread = [] ∧ outcome = ch.ending.answer ∧ mid = { ch with inbound := [] } := by
  obtain ⟨data, inbound, hdata, -, -, hreceive⟩ | ⟨hunread, hreceive⟩ :=
    receive_cases (Nat.pos_of_ne_zero hmissing) ch
  · obtain ⟨b, rest, rfl⟩ := List.exists_cons_of_ne_nil hdata
    exact absurd (Prod.mk.inj (h.symm.trans hreceive)).1 (hnone b rest)
  · obtain ⟨rfl, rfl⟩ := Prod.mk.inj (h.symm.trans hreceive)
    exact ⟨hunread, rfl, rfl⟩

theorem receiveFrom_of_le {got : Bytes} {missing : Nat} (h : missing ≤ ch.unread.length) :
    ∃ inbound, inbound.flatten = ch.unread.drop missing ∧
      receiveFrom got missing ch = (.ok (got ++ ch.unread.take missing), { ch with inbound }) := by
  fun_induction receiveFrom got missing ch with
  | case1 got ch => exact ⟨ch.inbound, rfl, by simp⟩
  | case2 got missing ch hmissing fault mid hreceive
  | case3 got missing ch hmissing mid hreceive =>
    have hunread := (receive_eq_end hmissing hreceive (by simp)).1
    rw [hunread, List.length_nil] at h
    exact absurd (Nat.le_zero.1 h) hmissing
  | case4 got missing ch hmissing b rest mid hreceive ih =>
    obtain ⟨inbound, rfl, hlength, hunread⟩ := receive_eq_ok_cons hmissing hreceive
    rw [hunread, List.length_append, List.length_cons] at h
    have hleft : missing - (rest.length + 1) ≤ inbound.flatten.length := by omega
    obtain ⟨left, hflatten, heq⟩ := ih hleft
    have htake : ch.unread.take missing =
        (b :: rest) ++ inbound.flatten.take (missing - (rest.length + 1)) := by
      rw [hunread, List.take_append, List.take_of_length_le hlength, List.length_cons]
    have hdrop : ch.unread.drop missing = inbound.flatten.drop (missing - (rest.length + 1)) := by
      rw [hunread, List.drop_append, List.drop_of_length_le hlength, List.length_cons,
        List.nil_append]
    refine ⟨left, hflatten.trans hdrop.symm, heq.trans ?_⟩
    rw [htake, List.append_assoc]
    rfl

theorem receiveFrom_of_lt {got : Bytes} {missing : Nat} (h : ch.unread.length < missing) :
    receiveFrom got missing ch =
      (.error (ch.ending.fault (got.length + ch.unread.length) (got.length + missing)),
        { ch with inbound := [] }) := by
  fun_induction receiveFrom got missing ch with
  | case1 got ch => exact absurd h (Nat.not_lt_zero _)
  | case2 got missing ch hmissing fault mid hreceive =>
    obtain ⟨hunread, hanswer, rfl⟩ := receive_eq_end hmissing hreceive (by simp)
    cases hending : ch.ending with
    | finished => simp [hending, Ending.answer] at hanswer
    | silent | broken =>
      rw [hending] at hanswer
      rw [Except.error.inj hanswer]
      rfl
  | case3 got missing ch hmissing mid hreceive =>
    obtain ⟨hunread, hanswer, rfl⟩ := receive_eq_end hmissing hreceive (by simp)
    cases hending : ch.ending with
    | finished => rw [hunread, List.length_nil, Nat.add_zero, Ending.fault]
    | silent | broken => simp [hending, Ending.answer] at hanswer
  | case4 got missing ch hmissing b rest mid hreceive ih =>
    obtain ⟨inbound, rfl, hlength, hunread⟩ := receive_eq_ok_cons hmissing hreceive
    have hcount : ch.unread.length = rest.length + 1 + inbound.flatten.length := by
      rw [hunread, List.length_append, List.length_cons]
    have hfew : inbound.flatten.length < missing - (rest.length + 1) := by omega
    have hgot : (got ++ b :: rest).length + inbound.flatten.length =
        got.length + ch.unread.length := by
      rw [hcount, List.length_append, List.length_cons, Nat.add_assoc]
    have hwanted : (got ++ b :: rest).length + (missing - (rest.length + 1)) =
        got.length + missing := by
      rw [List.length_append, List.length_cons]
      omega
    refine (ih hfew).trans ?_
    rw [← hgot, ← hwanted]
    rfl

/-- **If there are enough bytes, the first of them are read** and exactly the others are left. -/
theorem receiveExact_of_le {size : Nat} (h : size ≤ ch.unread.length) :
    ∃ inbound, inbound.flatten = ch.unread.drop size ∧
      receiveExact size ch = (.ok (ch.unread.take size), { ch with inbound }) :=
  receiveFrom_of_le h

/-- **If there are too few, all of them are read**, and the fault tells how many there were. -/
theorem receiveExact_of_lt {size : Nat} (h : ch.unread.length < size) :
    receiveExact size ch =
      (.error (ch.ending.fault ch.unread.length size), { ch with inbound := [] }) := by
  have hfault : receiveFrom [] size ch = _ := receiveFrom_of_lt h
  rwa [List.length_nil, Nat.zero_add, Nat.zero_add] at hfault

end Channel

end SocksRouter
