import Ferry.Text.CaseTable

set_option autoImplicit false

/-! # Lower case

Full lower-casing of the Unicode standard, independent of any language. Two mappings go beyond
one character for one character: capital dotted I becomes two, and capital sigma becomes the
final form at the end of a word. -/

namespace Ferry.Text

/-- The property `Cased`. -/
def isCased (c : Char) : Bool := toggled casedPoints c.toNat

/-- The property `Case_Ignorable`. -/
def isCaseIgnorable (c : Char) : Bool := toggled caseIgnorablePoints c.toNat

/-- The simple lower-case mapping of one character. -/
def lowerChar (c : Char) : Char :=
  if c.toNat < 0x80 then c.toLower
  else
    match lowerRuns.find? (fun r => c.toNat ≤ r.last) with
    | some r =>
      if r.first ≤ c.toNat ∧ (c.toNat - r.first) % r.step = 0
      then Char.ofNat ((c.toNat : Int) + r.shift).toNat
      else c
    | none => c

/-- Whether a cased character follows, after any number of case-ignorable ones. -/
def casedFollows (cs : List Char) : Bool :=
  match cs.dropWhile isCaseIgnorable with
  | c :: _ => isCased c
  | [] => false

/-- Lower-case the rest of a text; `before` holds the characters in front of it in reverse. A
    capital sigma that ends a word takes the final form. -/
def lowerFrom (before : List Char) : List Char → List Char
  | [] => []
  | c :: rest =>
    let mapped :=
      if c = 'Σ' then
        if casedFollows before && !casedFollows rest then ['ς'] else ['σ']
      else if c = 'İ' then ['i', '\u0307']
      else [lowerChar c]
    mapped ++ lowerFrom (c :: before) rest

/-- The text in lower case. -/
def lower (s : String) : String := String.ofList (lowerFrom [] s.toList)

end Ferry.Text
