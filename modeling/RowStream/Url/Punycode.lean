/-!
# Punycode

The ASCII form of a domain label.  The ASCII characters of a label come first; behind the last
hyphen stand the others, in ascending order, as numbers in base 36.  Each number says how many
places and code points lie between one insertion and the next.  The number of digits is not
written down: a digit below the threshold of its place is the last one, and the thresholds
adapt to the sizes seen so far.
-/

set_option autoImplicit false

namespace RowStream.Url.Punycode

def digitChar (value : Nat) : Char :=
  if value < 26 then Char.ofNat (0x61 + value) else Char.ofNat (0x30 + (value - 26))

def digitValue? (char : Char) : Option Nat :=
  let code := char.toNat
  if 0x61 ≤ code ∧ code ≤ 0x7a then some (code - 0x61)
  else if 0x41 ≤ code ∧ code ≤ 0x5a then some (code - 0x41)
  else if 0x30 ≤ code ∧ code ≤ 0x39 then some (code - 0x30 + 26)
  else none

/-- The threshold of a place; places are counted in steps of 36. -/
def threshold (place bias : Nat) : Nat :=
  if place ≤ bias then 1 else if bias + 26 ≤ place then 26 else place - bias

theorem threshold_bounds (place bias : Nat) :
    1 ≤ threshold place bias ∧ threshold place bias ≤ 26 := by
  unfold threshold
  split
  · omega
  · split <;> omega

def adaptSteps (delta steps : Nat) : Nat × Nat :=
  if 455 < delta then adaptSteps (delta / 35) (steps + 36) else (delta, steps)
termination_by delta
decreasing_by omega

def adapt (delta points : Nat) (first : Bool) : Nat :=
  let scaled := if first then delta / 700 else delta / 2
  let (small, steps) := adaptSteps (scaled + scaled / points) 0
  steps + 36 * small / (small + 38)

def writeNumber (bias place value : Nat) : List Char :=
  let limit := threshold place bias
  if value < limit then [digitChar value]
  else
    digitChar (limit + (value - limit) % (36 - limit)) ::
      writeNumber bias (place + 36) ((value - limit) / (36 - limit))
termination_by value
decreasing_by
  have bounds := threshold_bounds place bias
  exact Nat.lt_of_le_of_lt (Nat.div_le_self _ _) (by omega)

/-- What the encoder knows between two characters. -/
structure Encoder where
  written : List Char
  delta : Nat
  bias : Nat
  placed : Nat
  first : Bool

def Encoder.visit (codePoint : Nat) (encoder : Encoder) (char : Char) : Encoder :=
  if char.toNat < codePoint then { encoder with delta := encoder.delta + 1 }
  else if char.toNat = codePoint then
    { written := (writeNumber encoder.bias 36 encoder.delta).reverse ++ encoder.written
      delta := 0
      bias := adapt encoder.delta (encoder.placed + 1) encoder.first
      placed := encoder.placed + 1
      first := false }
  else encoder

/-- Places all occurrences of one code point; `from` is the first one not yet passed. -/
def Encoder.place (label : List Char) : Encoder × Nat → Nat → Encoder × Nat
  | (encoder, start), codePoint =>
      let jump := { encoder with
        delta := encoder.delta + (codePoint - start) * (encoder.placed + 1) }
      let visited := label.foldl (Encoder.visit codePoint) jump
      ({ visited with delta := visited.delta + 1 }, codePoint + 1)

/-- The code points outside ASCII, in ascending order and each once. -/
def laterCodePoints (label : List Char) : List Nat :=
  (((label.map Char.toNat).filter (0x80 ≤ ·)).mergeSort (· ≤ ·)).foldr
    (fun codePoint rest => if rest.head? = some codePoint then rest else codePoint :: rest) []

def encode (label : List Char) : List Char :=
  let basic := label.filter (·.toNat < 0x80)
  let start : Encoder :=
    { written := [], delta := 0, bias := 72, placed := basic.length, first := true }
  let (encoder, _) := (laterCodePoints label).foldl (Encoder.place label) (start, 0x80)
  basic ++ (if basic.isEmpty then [] else ['-']) ++ encoder.written.reverse

/-- Reads one number: its value added to `sum`, and the digits behind it. -/
def readNumber? (bias : Nat) : List Char → Nat → Nat → Nat → Option (Nat × List Char)
  | [], _, _, _ => none
  | char :: rest, place, weight, sum =>
      match digitValue? char with
      | none => none
      | some digit =>
          let limit := threshold place bias
          if digit < limit then some (sum + digit * weight, rest)
          else readNumber? bias rest (place + 36) (weight * (36 - limit)) (sum + digit * weight)

theorem readNumber?_shortens {bias : Nat} {chars rest : List Char} {place weight sum value : Nat}
    (reads : readNumber? bias chars place weight sum = some (value, rest)) :
    rest.length < chars.length := by
  induction chars generalizing place weight sum with
  | nil => simp [readNumber?] at reads
  | cons char others inductionHypothesis =>
      simp only [readNumber?] at reads
      split at reads
      · simp at reads
      · split at reads
        · simp only [Option.some.injEq, Prod.mk.injEq] at reads
          simp [← reads.2]
        · have := inductionHypothesis reads
          simp only [List.length_cons]
          omega

def insertChars? (bias codePoint position : Nat) (label digits : List Char) : Option (List Char) :=
  if digits = [] then some label
  else
    match _reads : readNumber? bias digits 36 1 position with
    | none => none
    | some (sum, rest) =>
        let points := label.length + 1
        let next := codePoint + sum / points
        if next.isValidChar then
          insertChars? (adapt (sum - position) points (position = 0 ∧ codePoint = 0x80)) next
            (sum % points + 1) (label.insertIdx (sum % points) (Char.ofNat next)) rest
        else none
termination_by digits.length
decreasing_by exact readNumber?_shortens _reads

def decode? (text : List Char) : Option (List Char) :=
  let (digits, basic) := text.reverse.span (· ≠ '-')
  insertChars? 72 0x80 0 (basic.drop 1).reverse digits.reverse

end RowStream.Url.Punycode
