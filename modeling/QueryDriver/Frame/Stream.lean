import QueryDriver.Frame.Basic

/-!
Reading a whole stream of query frames at once: headers and payloads in turn, as long as they are
there.
-/

namespace QueryDriver.Frame

/-- Where the frames of a stream stop. -/
inductive StreamEnd
  | boundary
  | cut
  /-- A header announces more than the limit. -/
  | refused (fault : MessageFault)

def parse (limit : Nat) (stream : List UInt8) : List Frame × StreamEnd :=
  if stream.length < headerSize then ([], if stream.isEmpty then .boundary else .cut)
  else
    match decodeHeader limit (stream.take headerSize) with
    | .error fault => ([], .refused fault)
    | .ok (token, length) =>
        let behind := stream.drop headerSize
        if behind.length < length then ([], .cut)
        else
          let (frames, ending) := parse limit (behind.drop length)
          (⟨token, ⟨(behind.take length).toArray⟩⟩ :: frames, ending)
termination_by stream.length
decreasing_by
  simp only [headerSize, tokenSize, lengthSize] at *
  simp only [List.length_drop]
  omega

end QueryDriver.Frame
