import RowStream.Bytes

/-!
# Frames: the lines of a body that arrives in chunks

A body is a sequence of lines, each ended by a line feed; one carriage return in front of the
line feed belongs to the line end.  A `FrameDecoder` holds the bytes of the unfinished line,
and `pull` takes the next complete line out of them.  Blank lines are passed over.  A line
longer than the limit, finished or not, poisons the decoder: it is reported once, and from
then on the decoder holds nothing and yields nothing.

No byte is looked at twice: those of the unfinished line are kept apart from those that are
still unread, the last one first, so that a chunk costs as much as it is long.  `pull_shortens`
says that every pull that yields something reads on, which is why `unread.length + 1` pulls are
always enough to empty a decoder.
-/

set_option autoImplicit false

namespace RowStream

inductive FrameError where
  | lineTooLong (limit : Nat)
  deriving DecidableEq, Repr

def FrameError.message : FrameError → String
  | .lineTooLong limit => "Line exceeds maximum " ++ toString limit ++ " bytes"

abbrev Frame := Except FrameError Bytes

/-- The largest line that is accepted unless a limit is configured: 16 MiB. -/
def defaultLineLimit : Nat := 16777216

structure FrameDecoder where
  limit : Nat
  /-- The bytes of the unfinished line that were looked at, the last one first.  None of them is
  a line feed. -/
  held : Bytes
  scanned : Nat
  unread : Bytes
  /-- An over-long line was met; nothing more comes out. -/
  poisoned : Bool
  deriving DecidableEq, Repr

namespace FrameDecoder

def new (limit : Nat) : FrameDecoder :=
  { limit, held := [], scanned := 0, unread := [], poisoned := false }

def waiting (decoder : FrameDecoder) : Bytes := decoder.held.reverse ++ decoder.unread

def buffered (decoder : FrameDecoder) : Nat := decoder.scanned + decoder.unread.length

def append (decoder : FrameDecoder) (chunk : Bytes) : FrameDecoder :=
  if decoder.poisoned then decoder else { decoder with unread := decoder.unread ++ chunk }

def poison (limit : Nat) : FrameDecoder := { new limit with poisoned := true }

/-- A carriage return at the end belongs to the line end, or may turn out to. -/
def endsInReturn (held : Bytes) : Bool := held.head? = some Bytes.carriageReturn

def lineLength (held : Bytes) (scanned : Nat) : Nat :=
  if endsInReturn held then scanned - 1 else scanned

def line (held : Bytes) : Bytes :=
  (if endsInReturn held then held.drop 1 else held).reverse

/-- Reads on up to the next frame.  At the end of the bytes that wait, an unfinished line that
is already too long is reported without waiting for its end. -/
def scan (limit : Nat) : Bytes → Nat → Bytes → Option Frame × FrameDecoder
  | held, scanned, [] =>
      if limit < lineLength held scanned then
        (some (.error (.lineTooLong limit)), poison limit)
      else (none, { new limit with held, scanned })
  | held, scanned, byte :: rest =>
      if byte = Bytes.lineFeed then
        if limit < lineLength held scanned then
          (some (.error (.lineTooLong limit)), poison limit)
        else if lineLength held scanned = 0 then scan limit [] 0 rest
        else (some (.ok (line held)), { new limit with unread := rest })
      else scan limit (byte :: held) (scanned + 1) rest

def pull (decoder : FrameDecoder) : Option Frame × FrameDecoder :=
  if decoder.poisoned then (none, decoder)
  else scan decoder.limit decoder.held decoder.scanned decoder.unread

theorem scan_unread_le (limit : Nat) (held : Bytes) (scanned : Nat) (unread : Bytes) :
    (scan limit held scanned unread).2.unread.length ≤ unread.length := by
  induction unread generalizing held scanned with
  | nil =>
      simp only [scan]
      split <;> simp [poison, new]
  | cons byte rest inductionHypothesis =>
      have skipped := inductionHypothesis [] 0
      have kept := inductionHypothesis (byte :: held) (scanned + 1)
      simp only [scan, List.length_cons]
      split
      · split
        · simp [poison, new]
        · split
          · omega
          · simp
      · omega

theorem pull_shortens (decoder : FrameDecoder) {bytes : Bytes}
    (yields : decoder.pull.1 = some (.ok bytes)) :
    decoder.pull.2.unread.length < decoder.unread.length := by
  obtain ⟨limit, held, scanned, unread, poisoned⟩ := decoder
  cases poisoned with
  | true => simp [pull] at yields
  | false =>
      simp only [pull, Bool.false_eq_true, if_false] at yields ⊢
      induction unread generalizing held scanned with
      | nil =>
          simp only [scan] at yields
          split at yields <;> simp at yields
      | cons byte rest inductionHypothesis =>
          have skipped := scan_unread_le limit [] 0 rest
          have kept := scan_unread_le limit (byte :: held) (scanned + 1) rest
          simp only [scan, List.length_cons]
          split
          · split
            · simp [poison, new]
            · split
              · omega
              · simp
          · omega

def pullAtMost : Nat → FrameDecoder → List Frame × FrameDecoder
  | 0, decoder => ([], decoder)
  | count + 1, decoder =>
      match decoder.pull with
      | (none, rest) => ([], rest)
      | (some frame, rest) =>
          let (frames, last) := pullAtMost count rest
          (frame :: frames, last)

def drain (decoder : FrameDecoder) : List Frame × FrameDecoder :=
  pullAtMost (decoder.unread.length + 1) decoder

/-- The end of the body: what waits is dropped.  The answer is its length when it was a
truncated line, and nothing when the body ended right after a line feed. -/
def finish (decoder : FrameDecoder) : Option Nat × FrameDecoder :=
  let dropped := { decoder with held := [], scanned := 0, unread := [] }
  if decoder.buffered = 0 || decoder.poisoned then (none, dropped)
  else (some decoder.buffered, dropped)

end FrameDecoder

end RowStream
