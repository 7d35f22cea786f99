import RowStream.Event

/-!
# Tab-separated output

A `TsvSink` writes a line for every header and for every row.  Tabs and line feeds inside a
field become blanks, so that lines and fields can be told apart again.  Errors and the end of
the stream go to the terminal and not into the output.  A write or flush that fails is counted,
and the next line is tried all the same.
-/

set_option autoImplicit false

namespace RowStream

structure LineWriter where
  /-- How many more lines it takes; any number when it does not say. -/
  capacity : Option Nat
  flushes : Bool
  lines : Array String
  /-- Whether a write goes wrong although there is room, given how many lines were offered
  before it. -/
  stumbles : Nat → Bool := fun _ => false
  offered : Nat := 0

namespace LineWriter

def unlimited : LineWriter := { capacity := none, flushes := true, lines := #[] }

/-- Writes one line; the answer says whether it was taken. -/
def write (writer : LineWriter) (line : String) : Bool × LineWriter :=
  let after := { writer with offered := writer.offered + 1 }
  if writer.stumbles writer.offered then (false, after)
  else
    match writer.capacity with
    | none => (true, { after with lines := writer.lines.push line })
    | some 0 => (false, after)
    | some (left + 1) =>
        (true, { after with capacity := some left, lines := writer.lines.push line })

def text (writer : LineWriter) : String :=
  writer.lines.foldl (fun text line => text ++ line ++ "\n") ""

end LineWriter

structure TsvSink where
  writer : LineWriter
  errors : Nat
  writeErrors : Nat
  diagnostics : Array String

namespace TsvSink

def new (writer : LineWriter) : TsvSink :=
  { writer, errors := 0, writeErrors := 0, diagnostics := #[] }

/-- A field without tabs and line feeds. -/
def cleanField (field : String) : String :=
  String.ofList (field.toList.map fun char => if char = '\t' ∨ char = '\n' then ' ' else char)

def line (fields : List String) : String := "\t".intercalate (fields.map cleanField)

def writeLine (sink : TsvSink) (fields : List String) : TsvSink :=
  let (taken, writer) := sink.writer.write (line fields)
  { sink with writer, writeErrors := if taken then sink.writeErrors else sink.writeErrors + 1 }

def handle (sink : TsvSink) : Event → TsvSink
  | .header columns _ => sink.writeLine (columns.map Column.name)
  | .rows batch => batch.foldl (fun sink row => sink.writeLine (row.map Cell.display)) sink
  | .error message =>
      { sink with errors := sink.errors + 1
                  diagnostics := sink.diagnostics.push ("Error: " ++ message) }
  | .complete totalRows =>
      { sink with
        writeErrors := if sink.writer.flushes then sink.writeErrors else sink.writeErrors + 1
        diagnostics :=
          sink.diagnostics.push ("Done! Loaded " ++ toString totalRows ++ " rows") }

end TsvSink

end RowStream
