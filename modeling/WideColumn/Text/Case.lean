import WideColumn.Text.CaseTable

/-!
# Letter case

Names are compared in small letters. `lower` is the full mapping of Unicode: it goes letter by
letter, except that a capital I with a dot becomes two characters, and that a capital sigma at the
end of a word becomes the final small sigma.

In the other direction the program only asks whether a text, written in capitals or with a first
capital, is one particular ASCII word, so `capitalForm?` knows the characters whose capital form is
ASCII, ligatures included, and no others.
-/

namespace WideColumn.Text

/-- The small form of a letter that has one of a single character; any other character stays. -/
def lowerChar (c : Char) : Char :=
  let point := c.toNat
  match smallLetterRuns.find? fun (first, last, step, _) =>
      first ≤ point && point ≤ last && (point - first) % step == 0 with
  | some (_, _, _, distance) => Char.ofNat (point + distance).toNat
  | none => c

/-- Whether the nearest of `neighbours` that is not passed over is a letter with case. -/
def meetsCased (neighbours : List Char) : Bool :=
  match neighbours.dropWhile (inRanges caseIgnorableRanges) with
  | [] => false
  | c :: _ => inRanges casedRanges c

/-- The small form of `c`, standing after `before` (nearest first) and followed by `after`. -/
def lowerIn (before : List Char) (c : Char) (after : List Char) : List Char :=
  if c = 'Σ' then [if meetsCased before && !meetsCased after then 'ς' else 'σ']
  else if c = 'İ' then ['i', '\u0307']
  else if c.toNat < 0x80 then [c.toLower]
  else [lowerChar c]

/-- The small form of a text that stands after `before` (nearest first). -/
def lowerAfter (before : List Char) : List Char → List Char
  | [] => []
  | c :: rest => lowerIn before c rest ++ lowerAfter (c :: before) rest

/-- The text in small letters. -/
def lower (text : List Char) : List Char :=
  lowerAfter [] text

/-- A text in small letters, as a string. -/
def lowered (text : String) : String :=
  String.ofList (lower text.toList)

/-- Whether two names are the same up to letter case. -/
def sameIgnoringCase (first second : String) : Bool :=
  lowered first == lowered second

/-- The form in capitals of a character for which that is ASCII: `(whole, initial)`, where
`initial` has only its first letter as a capital. -/
def capitalForm? (c : Char) : Option (List Char × List Char) :=
  if c.toNat < 0x80 then some ([c.toUpper], [c.toUpper])
  else match c with
    | 'ß' => some (['S', 'S'], ['S', 's'])
    | 'ı' => some (['I'], ['I'])
    | 'ſ' => some (['S'], ['S'])
    | 'ﬀ' => some (['F', 'F'], ['F', 'f'])
    | 'ﬁ' => some (['F', 'I'], ['F', 'i'])
    | 'ﬂ' => some (['F', 'L'], ['F', 'l'])
    | 'ﬃ' => some (['F', 'F', 'I'], ['F', 'f', 'i'])
    | 'ﬄ' => some (['F', 'F', 'L'], ['F', 'f', 'l'])
    | 'ﬅ' => some (['S', 'T'], ['S', 't'])
    | 'ﬆ' => some (['S', 'T'], ['S', 't'])
    | _ => none

/-- The text in capitals, if that is an ASCII text. -/
def upperAscii? (text : List Char) : Option (List Char) :=
  (text.mapM capitalForm?).map fun forms => forms.flatMap (·.1)

/-- The text with a first capital and small letters after it, if the capital is ASCII. -/
def capitalized? : List Char → Option (List Char)
  | [] => some []
  | c :: rest => (capitalForm? c).map fun (_, initial) => initial ++ lowerAfter [c] rest

end WideColumn.Text
