/-!
# Fields of a text

Cutting a text at a separator: into all its fields, at the first separator, or at the last one.
Joining the fields with the separator gives the text back.
-/

namespace SocksRouter.Text

/-- The fields between the separators. There is one more field than there are separators, so the
empty text has one empty field. -/
def fields (isSeparator : Char → Bool) : List Char → List (List Char)
  | [] => [[]]
  | c :: rest =>
    if isSeparator c then [] :: fields isSeparator rest
    else match fields isSeparator rest with
      | [] => [[c]]
      | field :: more => (c :: field) :: more

/-- What stands before and after the first separator, if there is one. -/
def cutFirst (separator : Char) : List Char → Option (List Char × List Char)
  | [] => none
  | c :: rest =>
    if c = separator then some ([], rest)
    else (cutFirst separator rest).map fun (before, after) ↦ (c :: before, after)

/-- What stands before and after the last separator, if there is one. -/
def cutLast (separator : Char) (s : List Char) : Option (List Char × List Char) :=
  (cutFirst separator s.reverse).map fun (after, before) ↦ (before.reverse, after.reverse)

/-- The text without the characters of a class at its two ends. -/
def stripOf (isEdge : Char → Bool) (s : List Char) : List Char :=
  ((s.dropWhile isEdge).reverse.dropWhile isEdge).reverse

/-- Whether `part` occurs in the text as one stretch. -/
def occursIn (part : List Char) : List Char → Bool
  | [] => part.isEmpty
  | c :: rest => part.isPrefixOf (c :: rest) || occursIn part rest

theorem fields_ne_nil (isSeparator : Char → Bool) (s : List Char) : fields isSeparator s ≠ [] := by
  cases s with
  | nil => simp [fields]
  | cons c rest =>
    by_cases h : isSeparator c
    · simp [fields, h]
    · cases hf : fields isSeparator rest <;> simp [fields, h, hf]

end SocksRouter.Text
