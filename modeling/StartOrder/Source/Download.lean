import StartOrder.NameMap
import StartOrder.Source.Web

/-!
# Downloads

The body of an answer is written to a file of its own, chunk by chunk as it arrives, and read back
from there. The limit is checked twice: against the length that the answer announces, if it does,
and against the bytes before each chunk is written. The file is removed again, whatever comes of the
download.

The directory of downloads is a map from names to bytes, since all that matters of a temporary file
is that its name is free and that it is gone in the end.
-/

namespace StartOrder

/-- What of a body was written to its file, and the problem that put an end to that. -/
structure Received where
  written : List UInt8 := []
  problem : Option FetchProblem := none
  deriving DecidableEq

/-- Write chunks behind a number of bytes, none of which may lead beyond a limit. -/
def takeChunks (limit before : Nat) (complete : Bool) : List (List UInt8) → Received
  | [] => { problem := if complete then none else some .cutShort }
  | chunk :: rest =>
    if limit < before + chunk.length then { problem := some (.tooLarge limit) }
    else
      let more := takeChunks limit (before + chunk.length) complete rest
      { more with written := chunk ++ more.written }

/-- Take the body of an answer, if it is that of a success and not too large. -/
def Answer.receive (a : Answer) (limit : Nat) : Received :=
  if a.status < 200 || 300 ≤ a.status then { problem := some (.status a.status) }
  else if a.announced.any (limit < ·) then { problem := some (.tooLarge limit) }
  else takeChunks limit 0 a.complete a.chunks

/-- The text of a body that was received as a whole. -/
def Received.text (r : Received) : Except FetchProblem String :=
  match r.problem with
  | some problem => .error problem
  | none => match Url.decodeUtf8? r.written with
    | some text => .ok text
    | none => .error .notText

/-! ## Files -/

/-- The files of the directory of downloads. -/
structure Directory where
  files : NameMap (List UInt8) := ∅

namespace Directory

/-- A name that no file has, tried from a number on. -/
def freshName (d : Directory) : Nat → Nat → String
  | 0, n => s!"recipe{n}"
  | tries + 1, n =>
    let name := s!"recipe{n}"
    if d.files.contains name then d.freshName tries (n + 1) else name

/-- Write a body to a file of its own. -/
def write (d : Directory) (name : String) (bytes : List UInt8) : Directory :=
  ⟨d.files.insert name bytes⟩

/-- Remove a file. -/
def remove (d : Directory) (name : String) : Directory := ⟨d.files.erase name⟩

/-- Write what was received to a file, read its text if it is all there, and remove the file. -/
def keep (d : Directory) (r : Received) : Directory × Except FetchProblem String :=
  let name := d.freshName d.files.size 0
  let during := d.write name r.written
  let content := (during.files.find? name).getD []
  (during.remove name, { r with written := content }.text)

end Directory

end StartOrder
