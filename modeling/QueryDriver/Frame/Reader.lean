import QueryDriver.Frame.Basic

/-!
Reading query frames as their bytes arrive. The reader takes one byte at a time, so it does not
matter how the bytes are cut into chunks.
-/

namespace QueryDriver.Frame

/-- How far the reader has come in the current frame. Bytes found are kept in reverse. -/
inductive Progress
  | header (found : List UInt8)
  /-- At least one byte of the payload is missing. -/
  | payload (token : UInt64) (missing : Nat) (found : List UInt8)
  /-- A header announced more than the limit; nothing after it can be told apart. -/
  | failed (fault : MessageFault)

def Progress.start : Progress := .header []

def complete (token : UInt64) (found : List UInt8) : Frame :=
  ⟨token, ⟨found.reverse.toArray⟩⟩

/-- Takes one byte, and gives the frame that it completes. -/
def Progress.push (limit : Nat) (byte : UInt8) : Progress → Progress × Option Frame
  | .header found =>
      if found.length + 1 < headerSize then (.header (byte :: found), none)
      else
        match decodeHeader limit (byte :: found).reverse with
        | .error fault => (.failed fault, none)
        | .ok (token, 0) => (.start, some (complete token []))
        | .ok (token, missing) => (.payload token missing [], none)
  | .payload token missing found =>
      if missing ≤ 1 then (.start, some (complete token (byte :: found)))
      else (.payload token (missing - 1) (byte :: found), none)
  | .failed fault => (.failed fault, none)

/-- Takes a chunk, and gives the frames completed in it. The frames before them are in reverse. -/
def Progress.feedFrom (limit : Nat) (progress : Progress) (frames : List Frame) :
    List UInt8 → Progress × List Frame
  | [] => (progress, frames.reverse)
  | byte :: rest =>
      let (progress, frame) := progress.push limit byte
      progress.feedFrom limit (frame.toList ++ frames) rest

def Progress.feed (limit : Nat) (progress : Progress) (chunk : List UInt8) :
    Progress × List Frame :=
  progress.feedFrom limit [] chunk

end QueryDriver.Frame
