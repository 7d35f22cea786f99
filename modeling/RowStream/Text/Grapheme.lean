import RowStream.Text.Ranges

/-!
# Graphemes

What a reader takes for one character: a base with its marks, a Korean syllable, a flag, a
sequence of joined pictographs.  `graphemes` cuts a text into them; nothing is lost, as
`flatten_graphemes` says.
-/

set_option autoImplicit false

namespace RowStream.Text

def zeroWidthJoiner : Char := '\u200d'

def extendsCluster (char : Char) : Bool :=
  inRanges extendRanges char || inRanges toneRanges char || char = zeroWidthJoiner

/-- Whether parts of Korean syllables stay together. -/
def joinsSyllable (last next : Char) : Bool :=
  if inRanges leadingJamoRanges last then
    inRanges leadingJamoRanges next || inRanges vowelJamoRanges next ||
      inRanges syllableRanges next
  else if inRanges vowelJamoRanges last ||
      (inRanges syllableRanges last && (last.toNat - 0xac00) % 28 = 0) then
    inRanges vowelJamoRanges next || inRanges trailingJamoRanges next
  else if inRanges trailingJamoRanges last || inRanges syllableRanges last then
    inRanges trailingJamoRanges next
  else false

def endsJoinedPictograph : List Char → Bool
  | last :: rest =>
      last = zeroWidthJoiner &&
        match rest.dropWhile extendsCluster with
        | base :: _ => inRanges pictographicRanges base
        | [] => false
  | [] => false

/-- Whether the next character belongs to the grapheme whose characters are given last one
first. -/
def joinsCluster (cluster : List Char) (next : Char) : Bool :=
  match cluster with
  | [] => false
  | last :: _ =>
      if last.toNat < 0x300 && next.toNat < 0x300 then last = '\r' && next = '\n'
      else if inRanges controlRanges last || inRanges controlRanges next then false
      else
        extendsCluster next || inRanges spacingMarkRanges next ||
          inRanges prependRanges last || joinsSyllable last next ||
          (endsJoinedPictograph cluster && inRanges pictographicRanges next) ||
          (inRanges regionalRanges next &&
            (cluster.takeWhile (inRanges regionalRanges)).length % 2 = 1)

/-- Completes a grapheme, whose characters so far are given last one first. -/
def spanCluster (cluster : List Char) : List Char → List Char × List Char
  | [] => (cluster.reverse, [])
  | char :: rest =>
      if joinsCluster cluster char then spanCluster (char :: cluster) rest
      else (cluster.reverse, char :: rest)

theorem spanCluster_length (cluster chars : List Char) :
    (spanCluster cluster chars).2.length ≤ chars.length := by
  induction chars generalizing cluster with
  | nil => simp [spanCluster]
  | cons char rest inductionHypothesis =>
      simp only [spanCluster]
      split
      · have := inductionHypothesis (char :: cluster)
        simp only [List.length_cons]
        omega
      · simp

theorem spanCluster_append (cluster chars : List Char) :
    (spanCluster cluster chars).1 ++ (spanCluster cluster chars).2 =
      cluster.reverse ++ chars := by
  induction chars generalizing cluster with
  | nil => simp [spanCluster]
  | cons char rest inductionHypothesis =>
      simp only [spanCluster]
      split
      · simp [inductionHypothesis]
      · rfl

def collectGraphemes (known : List (List Char)) : List Char → List (List Char)
  | [] => known.reverse
  | char :: rest =>
      collectGraphemes ((spanCluster [char] rest).1 :: known) (spanCluster [char] rest).2
termination_by chars => chars.length
decreasing_by
  have := spanCluster_length [char] rest
  simp only [List.length_cons]
  omega

def graphemes (chars : List Char) : List (List Char) := collectGraphemes [] chars

theorem flatten_collectGraphemes (known : List (List Char)) (chars : List Char) :
    (collectGraphemes known chars).flatten = known.reverse.flatten ++ chars := by
  fun_induction collectGraphemes known chars with
  | case1 => simp
  | case2 known char rest inductionHypothesis =>
      have whole := spanCluster_append [char] rest
      simp only [List.reverse_cons, List.reverse_nil, List.nil_append, List.singleton_append]
        at whole
      simp [inductionHypothesis, whole]

theorem flatten_graphemes (chars : List Char) : (graphemes chars).flatten = chars := by
  simp [graphemes, flatten_collectGraphemes]

end RowStream.Text
