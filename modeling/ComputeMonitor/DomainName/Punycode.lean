import ComputeMonitor.Text.Letter
import ComputeMonitor.Text.Numeral

/-!
Labels beyond ASCII written in ASCII: first the ASCII characters of the label, then, behind the
last hyphen, where the others are put in.

The others come in the order of their code points. Each is told by the distance from the one before
it, counted over the places where it could stand, as a number whose digits have changing weights.
-/

set_option autoImplicit false

namespace ComputeMonitor.DomainName

open ComputeMonitor.Text (isDigit digitValue lowerAscii isAsciiLetter)

def digitBase : Nat := 36

/-- The distances that can be written are smaller than two to the power of 32. -/
def maxDistance : Nat := 4294967295

/-- The digit below which a number ends, at a place that grows by the base. -/
def threshold (bias place : Nat) : Nat :=
  if place ≤ bias then 1 else if bias + 26 ≤ place then 26 else place - bias

def adaptFrom : Nat → Nat → Nat × Nat
  | 0, delta => (0, delta)
  | fuel + 1, delta =>
    if 455 < delta then
      let (count, delta) := adaptFrom fuel (delta / 35)
      (count + 1, delta)
    else (0, delta)

def adapt (delta length : Nat) (isFirst : Bool) : Nat :=
  let delta := if isFirst then delta / 700 else delta / 2
  let (count, delta) := adaptFrom 32 (delta + delta / length)
  count * digitBase + digitBase * delta / (delta + 38)

/-! ## Reading -/

def letterDigit? (c : Char) : Option Nat :=
  let small := lowerAscii c
  if isAsciiLetter small then some (small.toNat - 'a'.toNat)
  else if isDigit c then some (26 + digitValue c)
  else none

def readDistance? (bias : Nat) : (place weight counted : Nat) → List Char → Option (Nat × List Char)
  | _, _, _, [] => none
  | place, weight, counted, c :: rest =>
    match letterDigit? c with
    | none => none
    | some digit =>
      let counted := counted + digit * weight
      let next := weight * (digitBase - threshold bias place)
      if maxDistance < counted then none
      else if digit < threshold bias place then some (counted, rest)
      else if maxDistance < next then none
      else readDistance? bias (place + digitBase) next counted rest

def insertAll? : Nat → (bias code counted : Nat) → List Nat → List Char → Option (List Nat)
  | _, _, _, _, label, [] => some label
  | 0, _, _, _, _, _ => none
  | fuel + 1, bias, code, counted, label, chars => do
    let (total, rest) ← readDistance? bias digitBase 1 counted chars
    let length := label.length + 1
    let code := code + total / length
    let place := total % length
    if code.isValidChar then
      insertAll? fuel (adapt (total - counted) length (counted = 0)) code (place + 1)
        (label.take place ++ code :: label.drop place) rest
    else none

def initialBias : Nat := 72

/-- Cut at the last hyphen. Without one there is nothing in front of it. -/
def splitLastHyphen (chars : List Char) : List Char × List Char :=
  match Text.splitFirst? '-' chars.reverse with
  | some (behind, front) => (front.reverse, behind.reverse)
  | none => ([], chars)

def decodeLabel? (written : List Char) : Option (List Nat) :=
  let (basic, numbers) := splitLastHyphen written
  insertAll? numbers.length initialBias 128 0 (basic.map Char.toNat) numbers

/-! ## Writing -/

def digitLetter (digit : Nat) : Char :=
  if digit < 26 then Char.ofNat ('a'.toNat + digit) else Char.ofNat ('0'.toNat + (digit - 26))

def distanceDigits (bias : Nat) : Nat → (place distance : Nat) → List Char
  | 0, _, _ => []
  | fuel + 1, place, distance =>
    let least := threshold bias place
    if distance < least then [digitLetter distance]
    else
      let excess := distance - least
      digitLetter (least + excess % (digitBase - least)) ::
        distanceDigits bias fuel (place + digitBase) (excess / (digitBase - least))

structure Written where
  digits : List Char := []
  distance : Nat := 0
  bias : Nat := initialBias
  /-- How many code points have been put in, the ones of ASCII among them. -/
  count : Nat
  isFirst : Bool := true

def Written.pass (round : Nat) (written : Written) (code : Nat) : Written :=
  if code < round then { written with distance := written.distance + 1 }
  else if code = round then
    { digits := written.digits ++ distanceDigits written.bias 64 digitBase written.distance
      distance := 0
      bias := adapt written.distance (written.count + 1) written.isFirst
      count := written.count + 1
      isFirst := false }
  else written

def writeRounds (label : List Nat) : (next : Nat) → List Nat → Written → Written
  | _, [], written => written
  | next, round :: rounds, written =>
    let start := { written with
      distance := written.distance + (round - next) * (written.count + 1) }
    let passed := label.foldl (Written.pass round) start
    writeRounds label (round + 1) rounds { passed with distance := passed.distance + 1 }

def encodeLabel (label : List Nat) : List Char :=
  let basic := label.filter (· < 128)
  let rounds := ((label.filter (128 ≤ ·)).mergeSort (· ≤ ·)).eraseDups
  let written := writeRounds label 128 rounds { count := basic.length }
  basic.map Char.ofNat ++ (if basic.isEmpty then [] else ['-']) ++ written.digits

end ComputeMonitor.DomainName
