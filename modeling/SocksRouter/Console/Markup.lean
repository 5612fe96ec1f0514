import SocksRouter.Console.Emoji
import SocksRouter.Console.Literal
import SocksRouter.Console.Style
import SocksRouter.Console.Styled
import SocksRouter.Text.Word

/-!
# Markup

A text for the console may hold tags in square brackets that style what stands between them. A tag
starts with a small letter, `#`, `/` or `@` behind its bracket; a backslash in front of it makes it
plain text, and two backslashes stand for one. What follows an equals sign in a tag are its
parameters. A tag that starts with `/` closes the latest open tag of its name, or the latest of all
when it has no name. Names of one style are the same name.

Styles are not drawn here, so what remains of a text is what stands outside its tags, and the spans
of the styles. A tag that closes nothing makes the whole text unusable, and so does a tag that
starts with `@` and is closed when its parameters are no call: a name, a name with the arguments in
parentheses, or a value.
-/

namespace SocksRouter.Console

open Text

/-- A part of a text with markup. -/
inductive Part
  /-- Plain text. -/
  | plain (content : List Char)
  /-- A tag, by what stands between its brackets. -/
  | tag (content : List Char)
  deriving DecidableEq, Repr

/-- Why a text cannot be shown. -/
inductive MarkupError
  /-- No open tag has the name of a closing one. -/
  | notOpen (name : String)
  /-- No tag is open where the latest is to be closed. -/
  | nothingOpen
  /-- The parameters of a tag are no call. -/
  | noCall (parameters : String)
  /-- A part of a color is no number. -/
  | badColor
  deriving DecidableEq, Repr

/-- Whether a tag may start with the character. -/
def startsTag (c : Char) : Bool :=
  ('a' ≤ c && c ≤ 'z') || c = '#' || c = '/' || c = '@'

/-- What stands before the first closing bracket and behind it, when no opening one comes first. -/
def closeTag : List Char → Option (List Char × List Char)
  | [] => none
  | ']' :: rest => some ([], rest)
  | '[' :: _ => none
  | c :: rest => (closeTag rest).map fun (content, rest) ↦ (c :: content, rest)

/-- The tag at the start of a text, and what follows it. -/
def readTag : List Char → Option (List Char × List Char)
  | '[' :: c :: rest =>
    if startsTag c then (closeTag rest).map fun (content, rest) ↦ (c :: content, rest) else none
  | _ => none

theorem length_closeTag {s content rest : List Char} (h : closeTag s = some (content, rest)) :
    rest.length < s.length := by
  fun_induction closeTag s generalizing content with
  | case1 => simp at h
  | case2 more =>
    obtain ⟨-, rfl⟩ := Prod.mk.inj (Option.some.inj h)
    simp
  | case3 => simp at h
  | case4 c more _ _ ih =>
    obtain ⟨⟨inner, after⟩, hinner, heq⟩ := Option.map_eq_some_iff.1 h
    obtain ⟨-, rfl⟩ := Prod.mk.inj heq
    have := ih hinner
    simp only [List.length_cons]
    omega

theorem length_readTag {s content rest : List Char} (h : readTag s = some (content, rest)) :
    rest.length < s.length := by
  unfold readTag at h
  split at h
  · split at h
    · obtain ⟨⟨inner, after⟩, hinner, heq⟩ := Option.map_eq_some_iff.1 h
      obtain ⟨-, rfl⟩ := Prod.mk.inj heq
      have := length_closeTag hinner
      simp only [List.length_cons]
      omega
    · simp at h
  · simp at h

/-- The plain part read so far, latest character first, if there is any. -/
def plainPart (read : List Char) : List Part :=
  if read.isEmpty then [] else [.plain read.reverse]

/-- The parts of a text. `read` is the plain text in front of it, and `escapes` counts the
backslashes behind that, which belong to a tag if one follows. -/
def partsFrom (read : List Char) (escapes : Nat) (s : List Char) : List Part :=
  match _hs : s with
  | [] => plainPart (List.replicate escapes '\\' ++ read)
  | c :: rest =>
    match _htag : readTag s with
    | some (content, after) =>
      let escaped := List.replicate (escapes / 2) '\\'
      plainPart read ++ plainPart escaped ++
        if escapes % 2 = 1 then .plain ('[' :: content ++ [']']) :: partsFrom [] 0 after
        else .tag content :: partsFrom [] 0 after
    | none =>
      if c = '\\' then partsFrom read (escapes + 1) rest
      else partsFrom (c :: List.replicate escapes '\\' ++ read) 0 rest
termination_by s.length
decreasing_by
  all_goals first
    | (subst _hs; exact length_readTag _htag)
    | simp

/-- The parts of a text. -/
def parts (s : List Char) : List Part :=
  partsFrom [] 0 s

/-- Plain text in which a bracket behind a backslash stands for itself. -/
def unescape : List Char → List Char
  | [] => []
  | '\\' :: '[' :: rest => '[' :: unescape rest
  | c :: rest => c :: unescape rest

/-! ### Tags -/

/-- What stands in a tag before its first equals sign, and behind it if there is one. -/
def cutTag (content : List Char) : List Char × Option (List Char) :=
  match cutFirst '=' content with
  | some (name, parameters) => (name, some parameters)
  | none => (content, none)

/-- A name as it is compared: the style that it says, or without blanks at its ends and in lower
case when it says none. -/
def comparedName (name : List Char) : Except MarkupError (List Char) :=
  match Style.read name with
  | .ok style => .ok style.text
  | .error .unknown => .ok (lower (strip name))
  | .error .badPart => .error .badColor

/-- A tag that is open. -/
structure OpenTag where
  /-- Its name as it is compared. -/
  name : List Char
  /-- Its parameters, if it has any. -/
  parameters : Option (List Char)
  /-- Where the text that it styles starts. -/
  start : Nat
  deriving DecidableEq, Repr

/-- Whether parameters are a call. -/
def isCall (parameters : List Char) : Bool :=
  let arguments := parameters.dropWhile fun c ↦ isWordChar c || c = '.'
  if arguments.isEmpty then true
  else if arguments.head? = some '(' && arguments.getLast? = some ')' && '\n' ∉ arguments then
    Literal.isValue arguments
  else Literal.isValue parameters

/-- Looks at the parameters of a tag that is closed. -/
def OpenTag.checkCall (tag : OpenTag) : Except MarkupError Unit :=
  match tag.name, tag.parameters with
  | '@' :: _, some parameters =>
    if isCall (strip parameters) then .ok () else .error (.noCall (String.ofList parameters))
  | _, _ => .ok ()

/-- A text whose markup is being read. -/
structure Marked where
  /-- The text so far, with the spans of the tags that are closed. -/
  text : Styled := ⟨[], []⟩
  /-- The open tags, the latest first. -/
  openTags : List OpenTag := []
  deriving DecidableEq, Repr

namespace Marked

/-- Whether a console drops the character. -/
def isDropped (c : Char) : Bool :=
  c.toNat ∈ [7, 8, 11, 12, 13]

/-- Plain text behind the one read so far. -/
def addPlain (marked : Marked) (s : List Char) : Marked :=
  let shown := (withPictures (unescape s)).filter fun c ↦ !isDropped c
  { marked with text := { marked.text with content := marked.text.content ++ shown } }

/-- Opens a tag. -/
def openTag (marked : Marked) (name : List Char) (parameters : Option (List Char)) : Marked :=
  let tag : OpenTag := ⟨name, parameters, marked.text.content.length⟩
  { marked with openTags := tag :: marked.openTags }

/-- Closes a tag, which leaves other tags open. -/
def closeTag (marked : Marked) (tag : OpenTag) (others : List OpenTag) :
    Except MarkupError Marked := do
  tag.checkCall
  let span : Span := ⟨tag.start, marked.text.content.length⟩
  return ⟨{ marked.text with spans := marked.text.spans ++ [span] }, others⟩

/-- Applies a tag. -/
def applyTag (marked : Marked) (content : List Char) : Except MarkupError Marked := do
  let (name, parameters) := cutTag content
  match name with
  | '/' :: name =>
    if (strip name).isEmpty then
      match marked.openTags with
      | [] => throw .nothingOpen
      | tag :: others => marked.closeTag tag others
    else
      let name ← comparedName (strip name)
      match marked.openTags.find? fun tag ↦ tag.name = name with
      | none => throw (.notOpen (String.ofList name))
      | some tag => marked.closeTag tag (marked.openTags.eraseP fun tag ↦ tag.name = name)
  | name => return marked.openTag (← comparedName name) parameters

/-- Reads a part. -/
def addPart (marked : Marked) : Part → Except MarkupError Marked
  | .plain content => .ok (marked.addPlain content)
  | .tag content => marked.applyTag content

/-- The text when all is read. A tag that is still open styles it up to its end. -/
def finish (marked : Marked) : Styled :=
  let spans := marked.openTags.map fun tag ↦ ⟨tag.start, marked.text.content.length⟩
  { marked.text with spans := marked.text.spans ++ spans }

end Marked

/-- Plain text as a console takes it. -/
def ofPlain (s : List Char) : Styled :=
  ⟨(withPictures s).filter fun c ↦ !Marked.isDropped c, []⟩

/-- Text with markup as a console takes it. -/
def ofMarkup (s : List Char) : Except MarkupError Styled := do
  return (← (parts s).foldlM Marked.addPart {}).finish

/-- Looks at the style that a tag says together with its parameters. -/
def checkStyle (content : List Char) : Except MarkupError Unit := do
  match cutTag content with
  | ('/' :: _, _) | (_, none) => return
  | (name, some parameters) =>
    let _ ← comparedName ((← comparedName name) ++ ' ' :: parameters)

/-- Looks at the styles of all tags in a text, which is what drawing it does first. -/
def checkStyles (s : List Char) : Except MarkupError Unit :=
  (parts s).forM fun
    | .plain _ => .ok ()
    | .tag content => checkStyle content

end SocksRouter.Console
