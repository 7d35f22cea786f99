import RowStream.Decimal.Natural
import RowStream.Http.Exchange
import RowStream.Url.Address

/-!
# Requests and replies as bytes

A request is written whole, with a note that the connection closes behind the reply.  So the
reply is everything that comes back, and `Reply.ofWire?` reads it: a status line, headers up to
an empty line, and a body that is framed in chunks, or has a stated length, or goes on until the
connection closes.  A body that stops before its frame says so is a cut one, and what came of it
counts.
-/

set_option autoImplicit false

namespace RowStream.Http

/-! ## Writing -/

def Request.authority (request : Request) : String :=
  (request.url.host.map Url.Host.serialize).getD "" ++
    match request.url.port with
    | some port => ":" ++ toString port.toNat
    | none => ""

def Request.headers (request : Request) : List (String × String) :=
  [("host", request.authority), ("accept", "*/*"), ("connection", "close")] ++
    match request.contentType? with
    | some contentType =>
        [("content-type", contentType), ("content-length", toString request.body.length)]
    | none => []

def Request.toWire (request : Request) : Bytes :=
  let lines := (request.method.name ++ " " ++ request.url.target ++ " HTTP/1.1") ::
    request.headers.map fun (name, value) => name ++ ": " ++ value
  Bytes.ofText (String.join (lines.map (· ++ "\r\n")) ++ "\r\n") ++ request.body

/-! ## Reading -/

/-- One character for each byte: all that a head means is ASCII. -/
def headText (bytes : Bytes) : String :=
  String.ofList (bytes.map fun byte => Char.ofNat byte.toNat)

def splitLine? (bytes : Bytes) : Option (String × Bytes) :=
  let line := bytes.takeWhile (· ≠ Bytes.lineFeed)
  match bytes.drop line.length with
  | [] => none
  | _ :: rest =>
      let kept := if line.getLast? = some Bytes.carriageReturn then line.dropLast else line
      some (headText kept, rest)

theorem length_lt_of_splitLine? {bytes rest : Bytes} {line : String}
    (split : splitLine? bytes = some (line, rest)) : rest.length < bytes.length := by
  simp only [splitLine?] at split
  split at split
  · simp at split
  · rename_i behind found
    simp only [Option.some.injEq, Prod.mk.injEq] at split
    have size := congrArg List.length found
    rw [split.2] at size
    simp only [List.length_drop, List.length_cons] at size
    omega

def readHeader (line : String) : String × String :=
  let name := line.toList.takeWhile (· ≠ ':')
  (String.ofList (name.map Char.toLower),
    Text.trim (String.ofList (line.toList.drop (name.length + 1))))

def readHeaders (bytes : Bytes) : Option (List (String × String) × Bytes) :=
  match _split : splitLine? bytes with
  | none => none
  | some (line, rest) =>
      if line = "" then some ([], rest)
      else (readHeaders rest).map fun (headers, body) => (readHeader line :: headers, body)
termination_by bytes.length
decreasing_by exact length_lt_of_splitLine? _split

def readStatus (line : String) : Option Status :=
  match line.splitOn " " with
  | version :: code :: _ =>
      if version.startsWith "HTTP/1." then
        match readNatural 1000 code with
        | .ok number => if 100 ≤ number then some ⟨number⟩ else none
        | .error _ => none
      else none
  | _ => none

/-- The size of a chunk; behind a semicolon stand extensions, which mean nothing here. -/
def readChunkSize (line : String) : Option Nat :=
  let digits := Text.trim (String.ofList (line.toList.takeWhile (· ≠ ';')))
  if digits.isEmpty || !digits.toList.all Url.isHexDigit then none
  else some (Url.digitsValue 16 digits.toList)

/-- What stands at the front of a body that is framed in chunks. -/
inductive ChunkHead where
  | last
  | broken (payload : Bytes)
  | chunk (payload rest : Bytes)

def ChunkHead.ofPayload (size : Nat) (bytes : Bytes) : ChunkHead :=
  match bytes.drop size with
  | _ :: _ :: rest => .chunk (bytes.take size) rest
  | _ => .broken (bytes.take size)

def ChunkHead.read (bytes : Bytes) : ChunkHead :=
  match splitLine? bytes with
  | none => .broken []
  | some (line, rest) =>
      match readChunkSize line with
      | none => .broken []
      | some size => if size = 0 then .last else ofPayload size rest

theorem ChunkHead.length_lt_of_read {bytes payload rest : Bytes}
    (found : read bytes = .chunk payload rest) : rest.length < bytes.length := by
  simp only [read] at found
  split at found
  · simp at found
  · rename_i line behind split
    have shorter := length_lt_of_splitLine? split
    split at found
    · simp at found
    · split at found
      · simp at found
      · simp only [ofPayload] at found
        split at found
        · rename_i shape
          have size := congrArg List.length shape
          simp only [List.length_drop, List.length_cons] at size
          simp only [ChunkHead.chunk.injEq] at found
          rw [← found.2]
          omega
        · simp at found

/-- The chunks of a body that is framed in chunks; it is whole when the empty chunk came. -/
def readChunks (bytes : Bytes) : List Bytes × Ending :=
  match _found : ChunkHead.read bytes with
  | .last => ([], .clean)
  | .broken payload => ([payload], .cut)
  | .chunk payload rest =>
      let (chunks, ending) := readChunks rest
      (payload :: chunks, ending)
termination_by bytes.length
decreasing_by exact ChunkHead.length_lt_of_read _found

def readFramed (headers : List (String × String)) (bytes : Bytes) : List Bytes × Ending :=
  if headers.any fun header => header.1 = "transfer-encoding" ∧ header.2 = "chunked" then
    readChunks bytes
  else
    match (headers.lookup "content-length").map (readNatural (Nat.pow 2 64)) with
    | some (.ok size) => ([bytes.take size], if size ≤ bytes.length then .clean else .cut)
    | _ => ([bytes], .clean)

/-- The reply that a server gave before it closed the connection, if it gave one. -/
def Reply.ofWire? (bytes : Bytes) : Option Reply := do
  let (line, rest) ← splitLine? bytes
  let status ← readStatus line
  let (headers, body) ← readHeaders rest
  let (chunks, ending) := readFramed headers body
  return { status, chunks := chunks.filter (!·.isEmpty), ending }

end RowStream.Http
