import StartOrder.Url.Domain.Direction
import StartOrder.Url.Domain.Joiner
import StartOrder.Url.Punycode

/-!
# Domains

Domains are compared and sent in ASCII. A label with other characters is brought into its normal
form and then written in punycode behind the mark `xn--`; one that has the mark already must be the
punycode of a label in normal form. The rules about directions are checked of all labels if any of
them has letters that are written from the right.
-/

namespace StartOrder.Url.Domain

/-- The characters of ASCII that no domain has. -/
def isForbidden (c : Char) : Bool :=
  c.toNat ≤ 0x20 || c.toNat = 0x7F || c = '#' || c = '/' || c = ':' || c = '<' || c = '>' ||
    c = '?' || c = '@' || c = '[' || c = '\\' || c = ']' || c = '^' || c = '|' || c = '%'

/-- Whether a text is in ASCII. -/
def isAscii (cs : List Char) : Bool := cs.all fun c => c.toNat < 0x80

/-- Whether a label is in normal form: nothing in it is to be replaced or composed, it does not
begin with a mark, and its joiners fit. -/
def isLabel (label : List Char) : Bool :=
  label.all (fun c => replacement? c = some [c] && !isForbidden c) && compose label = label &&
    !label.head?.any isMark && joinersFit [] label

/-- A label of a domain. -/
structure Label where
  /-- The label as it is read. -/
  text : List Char
  /-- The label as it is sent. -/
  ascii : List Char

/-- The most characters of a label that is brought into ASCII. -/
def maxLabel : Nat := 1000

/-- The most characters of the punycode of a label. -/
def maxCode : Nat := 2000

/-- A label without capitals and other characters that are to be replaced. -/
def Label.ofText? (text : List Char) : Option Label :=
  match text with
  | 'x' :: 'n' :: '-' :: '-' :: code =>
    if maxCode < code.length then none
    else (Punycode.decode? code).bind fun decoded =>
      if isLabel decoded && !isAscii decoded then some ⟨decoded, text⟩ else none
  | _ =>
    if isAscii text then
      if text.any isForbidden then none else some ⟨text, text⟩
    else if isLabel text && text.length ≤ maxLabel then
      some ⟨text, ['x', 'n', '-', '-'] ++ Punycode.encode text⟩
    else none

/-- A domain in ASCII. If some of it is written from the right, each label must be fit for that. -/
def toAscii? (name : String) : Option String := do
  let replaced ← name.toList.mapM replacement?
  let labels ← ((compose replaced.flatten).splitOn '.').mapM Label.ofText?
  if labels.any (isRightward ·.text) && !labels.all (isOneWay ·.text) then none
  return String.ofList (['.'].intercalate (labels.map Label.ascii))

end StartOrder.Url.Domain
