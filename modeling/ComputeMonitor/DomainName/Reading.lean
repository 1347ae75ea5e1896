import ComputeMonitor.DomainName.Direction
import ComputeMonitor.DomainName.Joining
import ComputeMonitor.DomainName.Mapping
import ComputeMonitor.DomainName.Mark
import ComputeMonitor.DomainName.Punycode
import ComputeMonitor.Text.Composition

/-!
Domain names in ASCII. A label beyond ASCII is written with a mark in front of it, and one that
has the mark is checked as the label that it stands for.
-/

set_option autoImplicit false

namespace ComputeMonitor.DomainName

open ComputeMonitor.Text (splitAll dropLeading? lowerAscii composedForm)

def isForbidden (c : Char) : Bool :=
  c.toNat ≤ 32 || c.toNat = 127 || "%#/:<>?@[\\]^|".toList.contains c

def labelMark : List Char := ['x', 'n', '-', '-']

/-- The longest label that is written with the mark, and the longest that is read behind it. -/
def maxLabelLength : Nat := 1000

def maxWrittenLength : Nat := 2000

structure Label where
  codes : List Nat
  written : List Char
  deriving DecidableEq, Repr

def isLabel (codes : List Nat) : Bool :=
  !(codes.head?.any isMark) && joinersAgree [] codes && codes.length ≤ maxLabelLength

/-- The label that stands behind the mark: in normal form, and with nothing in it that would have
to be replaced. -/
def markedLabel? (written : List Char) : Option Label := do
  if written.getLast? = some '-' || maxWrittenLength < written.length then none
  let codes ← decodeLabel? written
  let isRead := !codes.isEmpty && codes.all isValid && composedForm codes = codes && isLabel codes &&
    (dropLeading? labelMark (codes.map Char.ofNat)).isNone
  if isRead then some ⟨codes, labelMark ++ written⟩ else none

def label? (codes : List Nat) : Option Label :=
  let chars := codes.map Char.ofNat
  let isAscii := codes.all (· < 128)
  if chars.any isForbidden then none
  else
    match dropLeading? labelMark chars with
    | some written => if isAscii then markedLabel? written else none
    | none =>
      if isAscii then some ⟨codes, chars⟩
      else if isLabel codes then some ⟨codes, labelMark ++ encodeLabel codes⟩
      else none

/-- Whether the directions of a name agree. They count only if some part is written from right to
left. -/
def labelsAgree (labels : List Label) : Bool :=
  !(labels.any fun label => label.codes.any isRightToLeft) ||
    labels.all fun label => directionsAgree (label.codes.map direction)

def labels? (name : List Char) : Option (List Label) := do
  let codes ← name.mapM fun c => map? c.toNat
  let labels ← (splitAll '.' ((composedForm codes.flatten).map Char.ofNat)).mapM
    fun label => label? (label.map Char.toNat)
  if labelsAgree labels then some labels else none

def isPlain (name : List Char) : Bool :=
  name.all (·.toNat < 128) &&
    (splitAll '.' name).all fun label => (dropLeading? labelMark (label.map lowerAscii)).isNone

def ascii? (name : List Char) : Option (List Char) :=
  if isPlain name then
    if name.any isForbidden then none else some (name.map lowerAscii)
  else
    (labels? name).map fun labels => ['.'].intercalate (labels.map Label.written)

end ComputeMonitor.DomainName
