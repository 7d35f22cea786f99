import Mathlib.Data.List.Chain
import RowStream.Text.Grapheme

/-!
# What the graphemes of a text are

The graphemes of a text are the only way to cut it into clusters (`graphemes_eq_iff`): every
character joins the ones before it in its cluster, and the first one of a cluster does not join the
cluster in front.  So some of the first graphemes of a text are the graphemes of what they spell
(`graphemes_take`), and one more character at the end of a text changes its last grapheme at most
(`graphemes_concat`).
-/

set_option autoImplicit false

namespace RowStream.Text

/-- Each of the characters joins those before it.  The cluster is given last one first. -/
def Joined (cluster : List Char) : List Char → Prop
  | [] => True
  | char :: rest => joinsCluster cluster char ∧ Joined (char :: cluster) rest

def IsCluster : List Char → Prop
  | [] => False
  | char :: rest => Joined [char] rest

def Ends (cluster next : List Char) : Prop :=
  ∀ char ∈ next.head?, joinsCluster cluster.reverse char = false

structure Segmented (clusters : List (List Char)) : Prop where
  joined : ∀ cluster ∈ clusters, IsCluster cluster
  ended : clusters.IsChain Ends

theorem joined_concat (cluster taken : List Char) (char : Char) :
    Joined cluster (taken ++ [char]) ↔
      Joined cluster taken ∧ joinsCluster (taken.reverse ++ cluster) char := by
  induction taken generalizing cluster with
  | nil => simp [Joined]
  | cons first rest inductionHypothesis =>
      rw [List.cons_append, Joined, Joined, inductionHypothesis, List.reverse_cons,
        List.append_assoc, and_assoc]
      rfl

theorem IsCluster.exists_cons {cluster : List Char} (joined : IsCluster cluster) :
    ∃ first rest, cluster = first :: rest ∧ Joined [first] rest := by
  cases cluster with
  | nil => exact absurd joined id
  | cons first rest => exact ⟨first, rest, rfl, joined⟩

theorem IsCluster.head?_append {cluster : List Char} (joined : IsCluster cluster)
    (behind : List Char) : (cluster ++ behind).head? = cluster.head? := by
  obtain ⟨first, rest, rfl, _⟩ := joined.exists_cons
  rfl

theorem isCluster_concat {cluster : List Char} (joined : IsCluster cluster) (char : Char) :
    IsCluster (cluster ++ [char]) ↔ joinsCluster cluster.reverse char := by
  obtain ⟨first, rest, rfl, restJoined⟩ := joined.exists_cons
  rw [List.cons_append, IsCluster, joined_concat, List.reverse_cons]
  exact and_iff_right restJoined

/-! ## One cluster -/

theorem spanCluster_eq_iff (cluster taken rest : List Char) :
    spanCluster cluster (taken ++ rest) = (cluster.reverse ++ taken, rest) ↔
      Joined cluster taken ∧ Ends (cluster.reverse ++ taken) rest := by
  induction taken generalizing cluster with
  | nil =>
      cases rest with
      | nil => simp [spanCluster, Joined, Ends]
      | cons char others =>
          by_cases joins : joinsCluster cluster char
          · -- the character would be taken, and less would be left
            have shorter := spanCluster_length (char :: cluster) others
            constructor
            · intro spanned
              simp only [List.nil_append, spanCluster, if_pos joins] at spanned
              rw [spanned, List.length_cons] at shorter
              omega
            · rintro ⟨_, ends⟩
              have apart := ends char rfl
              simp [joins] at apart
          · simp [spanCluster, Joined, Ends, joins]
  | cons char others inductionHypothesis =>
      rw [List.cons_append, spanCluster, Joined]
      by_cases joins : joinsCluster cluster char
      · have same := inductionHypothesis (char :: cluster)
        rw [List.reverse_cons, List.append_assoc, List.singleton_append] at same
        rw [if_pos joins, same, and_assoc]
        exact (and_iff_right joins).symm
      · rw [if_neg joins]
        constructor
        · intro spanned
          have lengths := congrArg (fun parts => parts.1.length) spanned
          simp at lengths
        · rintro ⟨⟨absurdly, _⟩, _⟩
          exact absurd absurdly joins

theorem exists_spanCluster (cluster chars : List Char) :
    ∃ taken rest, chars = taken ++ rest ∧
      spanCluster cluster chars = (cluster.reverse ++ taken, rest) := by
  induction chars generalizing cluster with
  | nil => exact ⟨[], [], rfl, by simp [spanCluster]⟩
  | cons char others inductionHypothesis =>
      rw [spanCluster]
      by_cases joins : joinsCluster cluster char
      · obtain ⟨taken, rest, shape, spanned⟩ := inductionHypothesis (char :: cluster)
        refine ⟨char :: taken, rest, by rw [shape, List.cons_append], ?_⟩
        rw [if_pos joins, spanned, List.reverse_cons, List.append_assoc, List.singleton_append]
      · refine ⟨[], char :: others, rfl, ?_⟩
        rw [if_neg joins, List.append_nil]

/-! ## The whole text -/

theorem collectGraphemes_eq (known : List (List Char)) (chars : List Char) :
    collectGraphemes known chars = known.reverse ++ graphemes chars := by
  match chars with
  | [] => simp [graphemes, collectGraphemes]
  | char :: rest =>
      have shorter := spanCluster_length [char] rest
      rw [graphemes, collectGraphemes, collectGraphemes, collectGraphemes_eq,
        collectGraphemes_eq [_]]
      simp
termination_by chars.length
decreasing_by all_goals simp only [List.length_cons]; omega

theorem graphemes_nil : graphemes [] = [] := by simp [graphemes, collectGraphemes]

theorem graphemes_append {first : Char} {taken rest : List Char} (joined : Joined [first] taken)
    (ends : Ends (first :: taken) rest) :
    graphemes (first :: taken ++ rest) = (first :: taken) :: graphemes rest := by
  have spanned := (spanCluster_eq_iff [first] taken rest).mpr ⟨joined, ends⟩
  rw [graphemes, List.cons_append, collectGraphemes, spanned, collectGraphemes_eq]
  rfl

theorem graphemes_flatten {clusters : List (List Char)} (segmented : Segmented clusters) :
    graphemes clusters.flatten = clusters := by
  obtain ⟨joined, ended⟩ := segmented
  induction clusters with
  | nil => exact graphemes_nil
  | cons cluster rest inductionHypothesis =>
      obtain ⟨clusterJoined, restJoined⟩ := List.forall_mem_cons.mp joined
      obtain ⟨clusterEnds, restEnded⟩ := List.isChain_cons.mp ended
      obtain ⟨first, others, rfl, othersJoined⟩ := clusterJoined.exists_cons
      have ends : Ends (first :: others) rest.flatten := by
        cases rest with
        | nil => exact nofun
        | cons next behind =>
            have nextJoined := restJoined next List.mem_cons_self
            have nextEnds := clusterEnds next rfl
            rw [Ends, List.flatten_cons, nextJoined.head?_append]
            exact nextEnds
      rw [List.flatten_cons, graphemes_append othersJoined ends,
        inductionHypothesis restJoined restEnded]

theorem segmented_graphemes (chars : List Char) : Segmented (graphemes chars) := by
  match chars with
  | [] =>
      rw [graphemes_nil]
      exact ⟨nofun, .nil⟩
  | first :: others =>
      obtain ⟨taken, rest, shape, spanned⟩ := exists_spanCluster [first] others
      have shorter : rest.length ≤ others.length := by simp [shape]
      rw [shape] at spanned
      obtain ⟨joined, ends⟩ := (spanCluster_eq_iff [first] taken rest).mp spanned
      obtain ⟨restJoined, restEnded⟩ := segmented_graphemes rest
      rw [shape, ← List.cons_append, graphemes_append joined ends]
      refine ⟨List.forall_mem_cons.mpr ⟨joined, restJoined⟩,
        List.isChain_cons.mpr ⟨fun next isNext => ?_, restEnded⟩⟩
      have nextJoined := restJoined next (List.mem_of_mem_head? isNext)
      obtain ⟨behind, next_eq⟩ := List.head?_eq_some_iff.mp isNext
      have whole := flatten_graphemes rest
      rw [next_eq, List.flatten_cons] at whole
      rw [← whole, Ends, nextJoined.head?_append] at ends
      exact ends
termination_by chars.length
decreasing_by simp only [List.length_cons]; omega

/-- The graphemes of a text are its cut into clusters. -/
theorem graphemes_eq_iff (chars : List Char) (clusters : List (List Char)) :
    graphemes chars = clusters ↔ clusters.flatten = chars ∧ Segmented clusters := by
  constructor
  · rintro rfl
    exact ⟨flatten_graphemes chars, segmented_graphemes chars⟩
  · rintro ⟨rfl, segmented⟩
    exact graphemes_flatten segmented

theorem graphemes_take (chars : List Char) (count : Nat) :
    graphemes ((graphemes chars).take count).flatten = (graphemes chars).take count := by
  obtain ⟨joined, ended⟩ := segmented_graphemes chars
  exact graphemes_flatten ⟨fun cluster member => joined cluster (List.mem_of_mem_take member),
    ended.take count⟩

/-- One more character is a grapheme, or it joins the last one. -/
theorem graphemes_concat (chars : List Char) (char : Char) :
    graphemes (chars ++ [char]) = graphemes chars ++ [[char]] ∨
      ∃ front last, graphemes chars = front ++ [last] ∧
        graphemes (chars ++ [char]) = front ++ [last ++ [char]] := by
  obtain ⟨joined, ended⟩ := segmented_graphemes chars
  have whole := flatten_graphemes chars
  rcases List.eq_nil_or_concat (graphemes chars) with none | ⟨front, last, shape⟩
  · left
    rw [none] at whole ⊢
    rw [← whole]
    exact (graphemes_eq_iff _ _).mpr ⟨rfl, by simp [IsCluster, Joined], .singleton _⟩
  · rw [List.concat_eq_append] at shape
    rw [shape] at joined ended whole
    obtain ⟨frontJoined, lastJoined⟩ := List.forall_mem_append.mp joined
    have lastJoined : IsCluster last := lastJoined last List.mem_cons_self
    obtain ⟨frontEnded, _, lastEnds⟩ := List.isChain_append.mp ended
    rw [shape]
    by_cases joins : joinsCluster last.reverse char
    · refine Or.inr ⟨front, last, rfl, (graphemes_eq_iff _ _).mpr ⟨?_, ?_, ?_⟩⟩
      · rw [← whole]
        simp
      · have longer := (isCluster_concat lastJoined char).mpr joins
        exact List.forall_mem_append.mpr ⟨frontJoined, List.forall_mem_singleton.mpr longer⟩
      · refine List.isChain_append.mpr ⟨frontEnded, .singleton _, ?_⟩
        rintro cluster isLast _ ⟨⟩
        have ends := lastEnds cluster isLast last rfl
        rw [Ends, lastJoined.head?_append]
        exact ends
    · refine Or.inl ((graphemes_eq_iff _ _).mpr ⟨?_, ?_, ?_⟩)
      · rw [← whole]
        simp
      · exact List.forall_mem_append.mpr ⟨joined, by simp [IsCluster, Joined]⟩
      · refine List.isChain_append.mpr ⟨ended, .singleton _, ?_⟩
        simp [Ends, joins]

end RowStream.Text
