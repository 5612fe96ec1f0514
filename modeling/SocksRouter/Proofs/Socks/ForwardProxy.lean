import SocksRouter.Proofs.Text.Digits
import SocksRouter.Proofs.Text.Fields
import SocksRouter.Socks.ForwardProxy

/-!
# Proxy addresses

An address names a proxy by a host and a port. `AddressForm` is an address taken apart: the host in
whatever square brackets, the digits of the port, and blanks around them. It says which texts are
addresses without saying how they are read.

Reading goes by that form: a text that has it is read as the proxy it names (`parse_text`), and one
that is not refused has it (`exists_form_or_isRefusal`). The two ways to write a proxy, as it is
shown and with the host in brackets, are forms of it, so both are read back; colons in the host do
no harm, since the digits of the port hold none. A refusal tells what became of the port
(`IsRefusal`).
-/

namespace SocksRouter.ForwardProxy

open Text

/-! ### Proxies and their addresses -/

/-- A proxy that an address can name: it has a host, without brackets at its ends, and a port. -/
structure IsSound (proxy : ForwardProxy) : Prop where
  host_ne_empty : proxy.host ≠ ""
  head_not_bracket : ∀ c ∈ proxy.host.toList.head?, isBracket c = false
  last_not_bracket : ∀ c ∈ proxy.host.toList.getLast?, isBracket c = false
  one_le_port : 1 ≤ proxy.port
  port_le : proxy.port ≤ 65535

/-- An address taken apart into the proxy it names and the characters it is written with. -/
structure AddressForm where
  /-- The blanks in front. -/
  left : List Char
  /-- The brackets in front of the host. -/
  opening : List Char
  /-- The proxy. -/
  proxy : ForwardProxy
  /-- The brackets behind the host. -/
  closing : List Char
  /-- The digits of the port. -/
  digits : List Char
  /-- The blanks behind. -/
  right : List Char
  left_blank : ∀ c ∈ left, isBlank c = true
  opening_bracket : ∀ c ∈ opening, isBracket c = true
  closing_bracket : ∀ c ∈ closing, isBracket c = true
  right_blank : ∀ c ∈ right, isBlank c = true
  sound : proxy.IsSound
  port_eq : ∃ n, readNumber digits = .ok n ∧ proxy.port = n
  /-- A blank that a host starts with has to stand in brackets. -/
  head_not_blank : opening = [] → ∀ c ∈ proxy.host.toList.head?, isBlank c = false

namespace AddressForm

variable (form : AddressForm)

/-- What stands in front of the last colon. -/
def hostPart : List Char :=
  form.opening ++ (form.proxy.host.toList ++ form.closing)

/-- The address without the blanks around it. -/
def body : List Char :=
  form.hostPart ++ ':' :: form.digits

/-- The characters of the address. -/
def text : List Char :=
  form.left ++ (form.body ++ form.right)

theorem host_ne_nil : form.proxy.host.toList ≠ [] :=
  mt String.toList_eq_nil_iff.1 form.sound.host_ne_empty

theorem isDecimal_digits : form.digits ≠ [] ∧ ∀ c ∈ form.digits, IsDecimal c := by
  obtain ⟨n, hread, -⟩ := form.port_eq
  exact decimal_of_readNumber_eq_ok hread

theorem body_head_not_blank : ∀ c ∈ form.body.head?, isBlank c = false := by
  intro c hc
  cases hopening : form.opening with
  | nil =>
    refine form.head_not_blank hopening c ?_
    rwa [body, hostPart, hopening, List.nil_append, List.append_assoc,
      List.head?_append_of_ne_nil _ form.host_ne_nil] at hc
  | cons bracket more =>
    obtain rfl : bracket = c := by simpa [body, hostPart, hopening] using hc
    have hbracket : isBracket bracket = true :=
      form.opening_bracket bracket (by simp [hopening])
    obtain rfl | rfl : bracket = '[' ∨ bracket = ']' := of_decide_eq_true hbracket <;> decide

theorem body_last_not_blank : ∀ c ∈ form.body.getLast?, isBlank c = false := by
  intro c hc
  obtain ⟨hne, hdecimal⟩ := form.isDecimal_digits
  rw [body, List.getLast?_append_of_ne_nil _ (by simp), List.getLast?_cons_of_ne_nil hne] at hc
  exact (hdecimal c (List.mem_of_getLast? hc)).isBlank_eq_false

theorem strip_text : strip form.text = form.body := by
  rw [strip_eq_stripOf, text]
  exact stripOf_append form.left_blank form.right_blank (by simp [body]) form.body_head_not_blank
    form.body_last_not_blank

theorem cutLast_body : cutLast ':' form.body = some (form.hostPart, form.digits) := by
  refine cutLast_eq_some_iff.2 ⟨rfl, fun hcolon ↦ ?_⟩
  have hdecimal : (decimalValue? ':').isSome = true := form.isDecimal_digits.2 ':' hcolon
  exact absurd hdecimal (by decide)

theorem stripOf_hostPart : stripOf isBracket form.hostPart = form.proxy.host.toList :=
  stripOf_append form.opening_bracket form.closing_bracket form.host_ne_nil
    form.sound.head_not_bracket form.sound.last_not_bracket

/-- **A text with the form of an address is read as the proxy that it names.** -/
theorem parse_text {text : String} (h : text.toList = form.text) :
    parse text = .ok form.proxy := by
  obtain ⟨n, hread, hport⟩ := form.port_eq
  obtain ⟨hne, hdecimal⟩ := form.isDecimal_digits
  have hdigits : isDigitString form.digits = true := by
    simpa [isDigitString, hne] using fun c hc ↦ (hdecimal c hc).isDigit
  have hrange : 0 < n ∧ n < 65536 := by
    have := form.sound.one_le_port
    have := form.sound.port_le
    omega
  simp only [parse, h, strip_text, cutLast_body, stripOf_hostPart, hread, hdigits, hrange,
    String.ofList_toList, ← hport]
  simp [form.host_ne_nil]

end AddressForm

/-! ### Texts that are refused -/

/-- Why a text is refused as an address. It has no host or no port; or the digits of its port make
no number, since something among them is not decimal, or since they are too many. -/
inductive IsRefusal (text : String) : ParseError → Prop
  | malformed : IsRefusal text (.malformed text)
  | notDecimal {before digits : List Char} {c : Char}
      (htext : strip text.toList = before ++ ':' :: digits)
      (hdigits : isDigitString digits = true) (hmem : c ∈ digits) (hc : ¬IsDecimal c) :
      IsRefusal text (.port (.notDecimal (String.ofList digits)))
  | tooLong {before digits leading rest : List Char}
      (htext : strip text.toList = before ++ ':' :: digits)
      (hdigits : isDigitString digits = true) (heq : digits = leading ++ rest)
      (hleading : ∀ c ∈ leading, IsDecimal c) (hlong : maxDigits < leading.length) :
      IsRefusal text (.port (.tooLong leading.length))

/-- A text has a host in front of its last colon and a port behind it, or it is refused. -/
theorem parse_cases (text : String) :
    (∃ before digits n, strip text.toList = before ++ ':' :: digits ∧
        stripOf isBracket before ≠ [] ∧ readNumber digits = .ok n ∧ (0 < n ∧ n < 65536) ∧
        parse text = .ok ⟨String.ofList (stripOf isBracket before), n⟩) ∨
      ∃ cause, parse text = .error cause ∧ IsRefusal text cause := by
  cases hcut : cutLast ':' (strip text.toList) with
  | none => exact .inr ⟨_, by simp [parse, hcut], .malformed⟩
  | some parts =>
    obtain ⟨before, digits⟩ := parts
    obtain ⟨hbody, -⟩ := cutLast_eq_some_iff.1 hcut
    by_cases hempty : (stripOf isBracket before).isEmpty = true ∨ (!isDigitString digits) = true
    · exact .inr ⟨_, by simp only [parse, hcut, if_pos hempty], .malformed⟩
    obtain ⟨hhost, hdigits⟩ : stripOf isBracket before ≠ [] ∧ isDigitString digits = true := by
      simpa [not_or] using hempty
    cases hread : readNumber digits with
    | ok n =>
      by_cases hport : 0 < n ∧ n < 65536
      · refine .inl ⟨before, digits, n, hbody, hhost, hread, hport, ?_⟩
        simp only [parse, hcut, if_neg hempty, hread, if_pos hport]
      · refine .inr ⟨.malformed text, ?_, .malformed⟩
        simp only [parse, hcut, if_neg hempty, hread, if_neg hport]
    | error cause =>
      refine .inr ⟨.port cause, by simp only [parse, hcut, if_neg hempty, hread], ?_⟩
      have hne : digits ≠ [] := by
        rintro rfl
        contradiction
      rcases readNumber_eq_error hne hread with
        ⟨leading, rest, heq, hleading, hlong, rfl⟩ | ⟨⟨c, hmem, hc⟩, rfl⟩
      · exact .tooLong hbody hdigits heq hleading hlong
      · exact .notDecimal hbody hdigits hmem hc

/-- **What is not refused has the form of an address.** -/
theorem exists_form_or_isRefusal (text : String) :
    (∃ form : AddressForm, form.text = text.toList) ∨
      ∃ cause, parse text = .error cause ∧ IsRefusal text cause := by
  refine (parse_cases text).imp_left ?_
  rintro ⟨before, digits, n, hbody, hhost, hread, hport, -⟩
  obtain ⟨left, right, htext, hleft, hright⟩ := exists_eq_append_stripOf isBlank text.toList
  obtain ⟨opening, closing, hbefore, hopening, hclosing⟩ :=
    exists_eq_append_stripOf isBracket before
  obtain ⟨hhead, hlast⟩ := not_isEdge_stripOf isBracket before
  have hsound : IsSound ⟨String.ofList (stripOf isBracket before), n⟩ :=
    ⟨by simpa using hhost, by simpa using hhead, by simpa using hlast, by simp; omega,
      by simp; omega⟩
  -- Without a bracket in front, the host starts where the blanks have ended.
  have hblank : opening = [] → ∀ c ∈ (stripOf isBracket before).head?, isBlank c = false := by
    rintro rfl c hc
    refine (isTrimmed_strip text.toList).1 c ?_
    rwa [hbody, hbefore, List.nil_append, List.append_assoc, List.head?_append_of_ne_nil _ hhost]
  refine ⟨⟨left, opening, _, closing, digits, right, hleft, hopening, hclosing, hright, hsound,
    ⟨n, hread, rfl⟩, by simpa using hblank⟩, ?_⟩
  rw [htext, ← strip_eq_stripOf, hbody]
  simp only [AddressForm.text, AddressForm.body, AddressForm.hostPart, String.toList_ofList,
    ← hbefore]

/-! ### Writing and reading -/

/-- The port of a sound proxy has a decimal text, and that is read as the port. -/
theorem IsSound.exists_port {proxy : ForwardProxy} (h : proxy.IsSound) :
    ∃ n : Nat, proxy.port = n ∧ (toString proxy.port).toList = Nat.toDigits 10 n ∧
      readNumber (Nat.toDigits 10 n) = .ok n := by
  obtain ⟨n, hn⟩ := Int.eq_ofNat_of_zero_le (Int.le_trans (by decide) h.one_le_port)
  have hlt : n < 100000 := by
    have := h.port_le
    omega
  refine ⟨n, hn, ?_, readNumber_toDigits (length_toDigits_le_maxDigits hlt)⟩
  rw [hn]
  exact String.toList_ofList

/-- A sound proxy is read back from any text with its host in whatever brackets and its port in
decimal. -/
theorem parse_write {proxy : ForwardProxy} (h : proxy.IsSound) {text : String}
    {left right : List Char} (opening closing : List Char) (hleft : ∀ c ∈ left, isBlank c = true)
    (hopening : ∀ c ∈ opening, isBracket c = true) (hclosing : ∀ c ∈ closing, isBracket c = true)
    (hright : ∀ c ∈ right, isBlank c = true)
    (hblank : opening = [] → ∀ c ∈ proxy.host.toList.head?, isBlank c = false)
    (htext : text.toList = left ++ (opening ++ (proxy.host.toList ++ closing) ++
      ':' :: (toString proxy.port).toList ++ right)) :
    parse text = .ok proxy := by
  obtain ⟨n, hport, hdigits, hread⟩ := h.exists_port
  rw [hdigits] at htext
  let form : AddressForm := ⟨left, opening, proxy, closing, Nat.toDigits 10 n, right, hleft,
    hopening, hclosing, hright, h, ⟨n, hread, hport⟩, hblank⟩
  exact form.parse_text htext

/-- **Reading a proxy address** gives the proxy that its form names, which has a host without
brackets at its ends and a port from one to 65535. A text without such a form is refused, and for no
other reason than those of `IsRefusal`. Such a proxy is read back from the text it is shown as, and
from the one that has its host in brackets, with any blanks around; only a host that starts with a
blank needs the brackets. -/
theorem parse_sound_and_reads_back :
    (∀ text : String,
      (∃ form : AddressForm, form.text = text.toList ∧ parse text = .ok form.proxy ∧
        form.proxy.IsSound) ∨
      (∀ form : AddressForm, form.text ≠ text.toList) ∧
        ∃ cause, parse text = .error cause ∧ IsRefusal text cause) ∧
    ∀ (proxy : ForwardProxy) (left right : String), proxy.IsSound →
      (∀ c ∈ left.toList, isBlank c = true) → (∀ c ∈ right.toList, isBlank c = true) →
      ((∀ c ∈ proxy.host.toList.head?, isBlank c = false) →
        parse (left ++ toString proxy ++ right) = .ok proxy) ∧
      parse (left ++ ("[" ++ proxy.host ++ "]:" ++ toString proxy.port) ++ right) = .ok proxy := by
  refine ⟨fun text ↦ ?_, fun proxy left right hsound hleft hright ↦ ⟨fun hblank ↦ ?_, ?_⟩⟩
  · obtain ⟨form, htext⟩ | ⟨cause, hparse, hrefusal⟩ := exists_form_or_isRefusal text
    · exact .inl ⟨form, htext, form.parse_text htext.symm, form.sound⟩
    · refine .inr ⟨fun form htext ↦ ?_, cause, hparse, hrefusal⟩
      rw [form.parse_text htext.symm] at hparse
      contradiction
  · refine parse_write hsound [] [] hleft (by simp) (by simp) hright (fun _ ↦ hblank) ?_
    simp [toString]
  · refine parse_write hsound ['['] [']'] hleft (by simp [isBracket]) (by simp [isBracket]) hright
      (by simp) ?_
    simp

/-- An address with colons in its host, between blanks, as it is shown and in brackets. -/
theorem parse_reads_back_colons :
    IsSound ⟨"fe80::1", 1080⟩ ∧
      parse "\u3000fe80::1:1080\n" = .ok ⟨"fe80::1", 1080⟩ ∧
      parse "\u3000[fe80::1]:1080\n" = .ok ⟨"fe80::1", 1080⟩ := by
  have hsound : IsSound ⟨"fe80::1", 1080⟩ :=
    ⟨by decide, by simp [isBracket], by simp [isBracket], by decide, by decide⟩
  obtain ⟨hshown, hbrackets⟩ := parse_sound_and_reads_back.2 ⟨"fe80::1", 1080⟩ "\u3000" "\n" hsound
    (by simp; decide) (by simp; decide)
  exact ⟨hsound, hshown (by simp; decide), hbrackets⟩

/-- The digits of a port may be those of any script, but a superscript makes no number. -/
example : parse "a:\u0661\u0660\u0668\u0660" = .ok ⟨"a", 1080⟩ ∧
    parse "a:1\u00B2" = .error (.port (.notDecimal "1\u00B2")) := by
  decide +kernel

end SocksRouter.ForwardProxy
