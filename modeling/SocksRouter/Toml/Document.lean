import SocksRouter.Toml.Number

/-!
# TOML documents

A document is a run of statements, one to a line: an entry, the header of a table, or the header of
an element in an array of tables. A header moves to the table that the entries behind it go to.
Nothing can be set twice: `Marks` keeps the tables that were declared, and the arrays and tables
that were written as values and cannot be added to.

`parse` reads a document. Values nest, so the readers of values call each other; each call takes at
least every second time a character, which bounds them by twice the length of the text.
-/

namespace SocksRouter.Toml

/-! ### Keys and values -/

/-- Whether a key without quotes may hold the character. -/
def isKeyChar (c : Char) : Bool :=
  c.isAlphanum || c = '-' || c = '_'

/-- The text without the blanks in front of it. -/
def skipBlanks (s : List Char) : List Char :=
  s.dropWhile isBlankInLine

/-- Reads one part of a key. -/
def keyPart (s : List Char) : Except ScanError (String × List Char) := do
  match s with
  | '\'' :: rest =>
    let (text, after) ← literalText false rest
    return (String.ofList text, after)
  | '"' :: rest =>
    let (text, after) ← basicText false [] rest
    return (String.ofList text, after)
  | _ =>
    let part := s.takeWhile isKeyChar
    if part.isEmpty then fail .invalidKey s
    else return (String.ofList part, s.drop part.length)

/-- Reads the parts of a key behind those already read, with the blanks behind them, in at most
`rounds` rounds. -/
def moreKey : Nat → Key → List Char → Except ScanError (Key × List Char)
  | 0, read, s => .ok (read, s)
  | rounds + 1, read, s =>
    match skipBlanks s with
    | '.' :: rest => do
      let (part, rest) ← keyPart (skipBlanks rest)
      moreKey rounds (read ++ [part]) rest
    | s => .ok (read, s)

/-- Reads a key, with the blanks behind it. -/
def key (s : List Char) : Except ScanError (Key × List Char) := do
  let (part, rest) ← keyPart s
  moreKey (rest.length + 1) [part] rest

/-- Reads a comment, if one starts here. -/
def skipComment (s : List Char) : Except ScanError (List Char) :=
  match s with
  | '#' :: rest => do
    let comment := rest.takeWhile (· ≠ '\n')
    checkStretch false comment rest
    return rest.drop comment.length
  | _ => .ok s

/-- Skips blanks, line breaks and comments inside an array, in at most `rounds` rounds. -/
def skipBetween : Nat → List Char → Except ScanError (List Char)
  | 0, s => .ok s
  | rounds + 1, s => do
    let next ← skipComment (s.dropWhile isBlankOrBreak)
    if next.length < s.length then skipBetween rounds next else return next

/-- Skips blanks, line breaks and comments inside an array. -/
def skipInArray (s : List Char) : Except ScanError (List Char) :=
  skipBetween s.length s

/-- A value that is neither an array nor an inline table. -/
def plainValue (s : List Char) : Except ScanError (Value × List Char) :=
  match quotedText? s with
  | some scanned => scanned.map fun (text, after) ↦ (.text (String.ofList text), after)
  | none =>
    if "true".toList.isPrefixOf s then .ok (.truth true, s.drop 4)
    else if "false".toList.isPrefixOf s then .ok (.truth false, s.drop 5)
    else match moment? s with
      | some scanned => scanned
      | none =>
        match number? s with
        | some scanned => scanned
        | none => fail .invalidValue s

/-- Whether a key is, or leads into, one of the given keys. -/
def isUnder (frozen : List Key) (key : Key) : Bool :=
  frozen.any fun known ↦ known.isPrefixOf key

/-- Puts an entry of an inline table into it. -/
def addInline (key : Key) (value : Value) (frozen : List Key) (entries : Entries)
    (s : List Char) : Except ScanError Entries :=
  let name := key.getLast?.getD ""
  if isUnder frozen key then fail (.immutable key) s
  else
    match insertAt false some key.dropLast entries with
    | none => fail .overwritten s
    | some entries =>
      match insertAt false (addEntry name value) key.dropLast entries with
      | none => fail (.duplicateKey name) s
      | some entries => .ok entries

mutual

/-- Reads a value, with calls to a depth of `depth`. -/
def value (depth : Nat) (s : List Char) : Except ScanError (Value × List Char) :=
  match depth with
  | 0 => fail .invalidValue s
  | depth + 1 =>
    match s with
    | '[' :: rest => do
      let rest ← skipInArray rest
      match rest with
      | ']' :: rest => return (.array [], rest)
      | _ => arrayFrom depth [] rest
    | '\x7b' :: rest =>
      match skipBlanks rest with
      | '\x7d' :: rest => .ok (.table [], rest)
      | rest => tableFrom depth [] [] rest
    | s => plainValue s

/-- Reads the elements of an array behind those already read. -/
def arrayFrom (depth : Nat) (read : List Value) (s : List Char) :
    Except ScanError (Value × List Char) :=
  match depth with
  | 0 => fail .unclosedArray s
  | depth + 1 => do
    let (item, rest) ← value depth s
    let rest ← skipInArray rest
    match rest with
    | ']' :: rest => return (.array (read ++ [item]), rest)
    | ',' :: rest =>
      let rest ← skipInArray rest
      match rest with
      | ']' :: rest => return (.array (read ++ [item]), rest)
      | _ => arrayFrom depth (read ++ [item]) rest
    | _ => fail .unclosedArray rest

/-- Reads the entries of an inline table behind those already read. -/
def tableFrom (depth : Nat) (frozen : List Key) (read : Entries) (s : List Char) :
    Except ScanError (Value × List Char) :=
  match depth with
  | 0 => fail .unclosedTable s
  | depth + 1 => do
    let (path, rest) ← key s
    match rest with
    | '=' :: rest =>
      let (item, rest) ← value depth (skipBlanks rest)
      let read ← addInline path item frozen read rest
      match skipBlanks rest with
      | '\x7d' :: rest => return (.table read, rest)
      | ',' :: rest =>
        tableFrom depth (if item.isNested then path :: frozen else frozen) read (skipBlanks rest)
      | rest => fail .unclosedTable rest
    | _ => fail .expectedEquals rest

end

/-! ### Statements -/

/-- What is kept of the keys seen so far. -/
structure Marks where
  /-- The tables that cannot be declared any more. -/
  declared : List Key := []
  /-- The tables that dotted keys made since the last header. -/
  pending : List Key := []
  /-- The arrays and tables that were written as values. -/
  frozen : List Key := []

/-- What has been read of a document. -/
structure Progress where
  /-- The values. -/
  entries : Entries := []
  /-- The keys seen. -/
  marks : Marks := {}
  /-- The table that entries go to. -/
  header : Key := []

namespace Progress

/-- The tables that dotted keys made cannot be declared once a header comes. -/
def settle (progress : Progress) : Progress :=
  let marks := progress.marks
  { progress with
    marks := { marks with declared := marks.pending ++ marks.declared, pending := [] } }

/-- Declares a table and moves to it. -/
def openTable (progress : Progress) (path : Key) (s : List Char) : Except ScanError Progress :=
  let marks := progress.marks
  if path ∈ marks.declared ∨ isUnder marks.frozen path then fail (.declaredTwice path) s
  else match insertAt true some path progress.entries with
    | none => fail .overwritten s
    | some entries =>
      .ok ⟨entries, { marks with declared := path :: marks.declared }, path⟩

/-- Adds an element to an array of tables and moves to it. -/
def openElement (progress : Progress) (path : Key) (s : List Char) : Except ScanError Progress :=
  let marks := progress.marks
  if isUnder marks.frozen path then fail (.immutable path) s
  else
    let outside (known : Key) : Bool := !path.isPrefixOf known
    let name := path.getLast?.getD ""
    match insertAt true (addElement name) path.dropLast progress.entries with
    | none => fail .overwritten s
    | some entries =>
      .ok ⟨entries,
        { marks with
          declared := path :: marks.declared.filter outside
          frozen := marks.frozen.filter outside }, path⟩

/-- Adds an entry to the table that entries go to. -/
def addValue (progress : Progress) (path : Key) (item : Value) (s : List Char) :
    Except ScanError Progress :=
  let marks := progress.marks
  let passed := (List.range (path.length - 1)).map fun i ↦
    progress.header ++ path.take (i + 1)
  match passed.find? fun inner ↦ inner ∈ marks.declared with
  | some inner => fail (.redefined inner) s
  | none =>
    let parent := progress.header ++ path.dropLast
    let name := path.getLast?.getD ""
    if isUnder marks.frozen parent then fail (.immutable parent) s
    else match insertAt true (addEntry name item) parent progress.entries with
      | none => fail .overwritten s
      | some entries =>
        let frozen := if item.isNested then (progress.header ++ path) :: marks.frozen
          else marks.frozen
        .ok ⟨entries, { marks with pending := passed ++ marks.pending, frozen }, progress.header⟩

end Progress

/-- Reads an entry. -/
def entryStatement (progress : Progress) (s : List Char) :
    Except ScanError (Progress × List Char) := do
  let (path, rest) ← key s
  match rest with
  | '=' :: rest =>
    let (item, rest) ← value (2 * rest.length + 2) (skipBlanks rest)
    return (← progress.addValue path item rest, rest)
  | _ => fail .expectedEquals rest

/-- Reads a header. -/
def headerStatement (progress : Progress) (s : List Char) :
    Except ScanError (Progress × List Char) := do
  let progress := progress.settle
  match s with
  | '[' :: '[' :: rest =>
    let (path, rest) ← key (skipBlanks rest)
    let progress ← progress.openElement path rest
    match rest with
    | ']' :: ']' :: rest => return (progress, rest)
    | _ => fail .expectedArrayEnd rest
  | _ =>
    let (path, rest) ← key (skipBlanks (s.drop 1))
    let progress ← progress.openTable path rest
    match rest with
    | ']' :: rest => return (progress, rest)
    | _ => fail .expectedTableEnd rest

/-- Reads a statement, which starts with no blank. -/
def statement (progress : Progress) (s : List Char) :
    Except ScanError (Progress × List Char) :=
  match s with
  | [] => .ok (progress, [])
  | c :: _ =>
    if isKeyChar c || c = '"' || c = '\'' then entryStatement progress s
    else if c = '[' then headerStatement progress s
    else if c = '#' || c = '\n' then .ok (progress, s)
    else fail .invalidStatement s

/-- Reads lines, at most `rounds` of them. -/
def linesFrom : Nat → Progress → List Char → Except ScanError Progress
  | 0, progress, _ => .ok progress
  | rounds + 1, progress, s => do
    let (progress, rest) ← statement progress (skipBlanks s)
    let rest ← skipComment (skipBlanks rest)
    match rest with
    | [] => return progress
    | '\n' :: rest => linesFrom rounds progress rest
    | _ => fail .expectedLineEnd rest

/-- The text with every pair of carriage return and line feed turned into a line feed. -/
def joinBreaks : List Char → List Char
  | [] => []
  | '\r' :: '\n' :: rest => '\n' :: joinBreaks rest
  | c :: rest => c :: joinBreaks rest

/-- Why a text is no document: an error, and the text it was found in. -/
structure ParseError where
  /-- The text. -/
  source : List Char
  /-- The error. -/
  error : ScanError
  deriving DecidableEq, Repr

/-- The wording of a parse error. -/
def ParseError.message (e : ParseError) : String :=
  e.error.message e.source

/-- Reads a document. -/
def parse (s : List Char) : Except ParseError Entries :=
  let source := joinBreaks s
  match linesFrom (source.length + 1) {} source with
  | .ok progress => .ok progress.entries
  | .error error => .error ⟨source, error⟩

end SocksRouter.Toml
