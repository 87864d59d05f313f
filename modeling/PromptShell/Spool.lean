import PromptShell.Text.Utf8
namespace PromptShell

/-- Bytes are put into a content at a place; a gap in front of them is filled with zeros. -/
def putBytes (content : Bytes) (place : Nat) (bytes : Bytes) : Bytes :=
  content.take place ++ List.replicate (place - content.length) 0 ++ bytes ++
    content.drop (place + bytes.length)

/-- The two streams on which a child can be heard. -/
inductive Channel where
  | output
  | errors
  deriving Repr, DecidableEq

/-- What happens to a file that output is collected in. -/
inductive SpoolChange where
  /-- Bytes are written where the shared stream stands. -/
  | flowed (bytes : Bytes)
  /-- Bytes are written at a place. -/
  | placed (place : Nat) (bytes : Bytes)
  /-- Bytes are written at the end. -/
  | added (bytes : Bytes)
  /-- The file is emptied, and the shared stream stays where it stands. -/
  | emptied
  /-- A number of bytes were read from the shared stream. -/
  | passed (count : Nat)
  deriving Repr, DecidableEq

/-- A file that output is collected in, as pieces with the latest first, and the place at which the
shared stream stands. -/
structure Spool where
  pieces : List Bytes := []
  size : Nat := 0
  place : Nat := 0
  deriving Repr, DecidableEq

namespace Spool

/-- All bytes of the file. -/
def content (spool : Spool) : Bytes := spool.pieces.reverse.flatten

/-- Bytes are put into the file at a place. -/
def put (spool : Spool) (place : Nat) (bytes : Bytes) : Spool :=
  if bytes.isEmpty then spool
  else if place = spool.size then
    { spool with pieces := bytes :: spool.pieces, size := spool.size + bytes.length }
  else
    let content := putBytes spool.content place bytes
    { spool with pieces := [content], size := content.length }

/-- The file after a change. -/
def after (spool : Spool) : SpoolChange → Spool
  | .flowed bytes =>
      { spool.put spool.place bytes with place := spool.place + bytes.length }
  | .placed place bytes => spool.put place bytes
  | .added bytes => spool.put spool.size bytes
  | .emptied => { spool with pieces := [], size := 0 }
  | .passed count => { spool with place := spool.place + count }

/-- A stream that stands at the end of the file appends to it, and is at its end again. -/
theorem content_flowed (spool : Spool) (bytes : Bytes) (atEnd : spool.place = spool.size) :
    (spool.after (.flowed bytes)).content = spool.content ++ bytes ∧
      (spool.after (.flowed bytes)).place = (spool.after (.flowed bytes)).size := by
  cases bytes <;> simp [after, put, content, atEnd]

end Spool

/-- A change of one of the files that the output of children is collected in. -/
structure Emission where
  channel : Channel
  change : SpoolChange
  deriving Repr, DecidableEq

/-- A piece that was written where the shared stream stands. -/
def Emission.flow (channel : Channel) (bytes : Bytes) : Emission := ⟨channel, .flowed bytes⟩

/-- The files of both streams. -/
structure Spools where
  output : Spool := {}
  errors : Spool := {}
  deriving Repr, DecidableEq

namespace Spools

/-- The file of one stream. -/
def of (spools : Spools) : Channel → Spool
  | .output => spools.output
  | .errors => spools.errors

/-- The files after a change of one of them. -/
def after (spools : Spools) (emission : Emission) : Spools :=
  match emission.channel with
  | .output => { spools with output := spools.output.after emission.change }
  | .errors => { spools with errors := spools.errors.after emission.change }

/-- The files after some changes. -/
def afterAll (spools : Spools) (emissions : List Emission) : Spools := emissions.foldl after spools

end Spools
end PromptShell
