import SheetActions.Text.CaseTable

/-! Full case mapping of texts.

`lower` and `upper` map a whole text, since neither works character by character:
some characters map to several, and a capital sigma is written differently at
the end of a word. -/
namespace SheetActions.Text

/-- A code point with dot above, which its lower-case letter keeps as a mark. -/
def dottedCapitalI : Char := Char.ofNat 0x130

def capitalSigma : Char := Char.ofNat 0x3A3

/-- Lower case of a character on its own. -/
def lowerChar (c : Char) : List Char :=
  if c = dottedCapitalI then ['i', Char.ofNat 0x307]
  else [(CaseRun.map? lowerRuns c.toNat).elim c Char.ofNat]

/-- Upper case of a character. -/
def upperChar (c : Char) : List Char :=
  match upperExpansions.lookup c.toNat with
  | some l => l.map Char.ofNat
  | none => [(CaseRun.map? upperRuns c.toNat).elim c Char.ofNat]

/-- Whether the first character that is not passed over has case. -/
def meetsCased (l : List Char) : Bool :=
  match l.dropWhile fun c => inRanges caseIgnorableRanges c.toNat with
  | [] => false
  | c :: _ => inRanges casedRanges c.toNat

/-- Lower case of the rest of a text; `before` holds what stands in front of it, the
nearest character first. A capital sigma behind a cased character and not in front
of one ends a word. -/
def lowerFrom (before : List Char) : List Char → List Char
  | [] => []
  | c :: r =>
    let here :=
      if c = capitalSigma then
        [Char.ofNat (if meetsCased before && !meetsCased r then 0x3C2 else 0x3C3)]
      else lowerChar c
    here ++ lowerFrom (c :: before) r

/-- The text in lower case. -/
def lower (s : String) : String :=
  String.ofList (lowerFrom [] s.toList)

/-- The text in upper case. -/
def upper (s : String) : String :=
  String.ofList (s.toList.flatMap upperChar)

end SheetActions.Text
