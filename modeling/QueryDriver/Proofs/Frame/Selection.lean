import QueryDriver.Proofs.Frame.Reading

/-!
Taking frames out of a stream. Without its whole frames of other tokens a stream is read as before,
except that those frames are not found, and this is so for any chunk of the stream too.
-/

namespace QueryDriver.Frame

/-- How many bytes a frame takes in a stream. -/
def size (frame : Frame) : Nat :=
  headerSize + frame.payload.size

/-- Which bytes of a stream are left without its whole frames of other tokens. A frame that is cut
and what follows a refused header are left as they are. -/
def kept (token : UInt64) (limit : Nat) (stream : List UInt8) : List Bool :=
  let whole := (parse limit stream).1.flatMap fun frame =>
    List.replicate frame.size (frame.token == token)
  whole ++ List.replicate (stream.length - whole.length) true

/-- The bytes that are left. -/
def select : List Bool → List UInt8 → List UInt8
  | keep :: marks, byte :: bytes => if keep then byte :: select marks bytes else select marks bytes
  | _, _ => []

@[simp] theorem select_nil (marks : List Bool) : select marks [] = [] := by
  cases marks <;> rfl

theorem select_append (marks : List Bool) (first second : List UInt8)
    (enough : first.length ≤ marks.length) :
    select marks (first ++ second) =
      select marks first ++ select (marks.drop first.length) second := by
  induction first generalizing marks with
  | nil => simp
  | cons byte rest ih =>
      cases marks with
      | nil => simp at enough
      | cons keep marks =>
          have later := ih marks (by simpa using enough)
          cases keep <;> simp [select, later]

namespace Progress

/-- Whether the stream completes the frame that is being read, and it has another token. -/
def foreign (token : UInt64) (limit : Nat) (progress : Progress) (stream : List UInt8) : Bool :=
  match (progress.feed limit stream).2 with
  | frame :: _ => frame.token != token
  | [] => false

/-- Where the reader stands if the bytes of foreign frames never come. -/
def skip (token : UInt64) (limit : Nat) (progress : Progress) (stream : List UInt8) : Progress :=
  if progress.foreign token limit stream then start else progress

/-- Which bytes are left, said byte by byte from where the reader stands. -/
def kept (token : UInt64) (limit : Nat) (progress : Progress) : List UInt8 → List Bool
  | [] => []
  | byte :: rest =>
      (!progress.foreign token limit (byte :: rest)) ::
        (progress.push limit byte).1.kept token limit rest

theorem foreign_cons (token : UInt64) (limit : Nat) (progress : Progress) (byte : UInt8)
    (rest : List UInt8) :
    progress.foreign token limit (byte :: rest) =
      match (progress.push limit byte).2 with
      | some frame => frame.token != token
      | none => (progress.push limit byte).1.foreign token limit rest := by
  rw [foreign, feed_cons]
  cases (progress.push limit byte).2 <;> rfl

theorem foreign_of_unfound {token : UInt64} {limit : Nat} {progress : Progress}
    {stream : List UInt8} (unfound : (progress.feed limit stream).2 = []) :
    progress.foreign token limit stream = false := by
  simp [foreign, unfound]

theorem skip_failed (token : UInt64) (limit : Nat) (fault : MessageFault) (stream : List UInt8) :
    (failed fault).skip token limit stream = failed fault := by
  simp [skip, foreign, feed_failed]

theorem skip_start (token : UInt64) (limit : Nat) (stream : List UInt8) :
    start.skip token limit stream = start := by
  simp [skip]

theorem length_kept (token : UInt64) (limit : Nat) (progress : Progress) (stream : List UInt8) :
    (progress.kept token limit stream).length = stream.length := by
  induction stream generalizing progress with
  | nil => rfl
  | cons byte rest ih => simp [kept, ih]

/-- One byte, which is left or not, moves both readers alike. -/
theorem skip_push (token : UInt64) (limit : Nat) (progress : Progress) (byte : UInt8)
    (rest : List UInt8) :
    (progress.skip token limit (byte :: rest)).feed limit
        (if progress.foreign token limit (byte :: rest) then [] else [byte]) =
      ((progress.push limit byte).1.skip token limit rest,
        (progress.push limit byte).2.toList.filter fun frame => frame.token = token) := by
  rw [skip, foreign_cons]
  cases found : (progress.push limit byte).2 with
  | none =>
      cases foreign : (progress.push limit byte).1.foreign token limit rest with
      | true => simp [skip, foreign]
      | false => simp [skip, foreign, feed_cons, found]
  | some frame =>
      -- the byte completes a frame, so the reader that was behind is at the boundary too
      rw [push_found found, skip_start]
      by_cases same : frame.token = token
      · simp [same, feed_cons, found, push_found found]
      · simp [same]

/-- A chunk of the bytes that are left gives the frames of the token in the whole chunk. -/
theorem feed_select (token : UInt64) (limit : Nat) (progress : Progress)
    (chunk rest : List UInt8) :
    (progress.skip token limit (chunk ++ rest)).feed limit
        (select (progress.kept token limit (chunk ++ rest)) chunk) =
      ((progress.feed limit chunk).1.skip token limit rest,
        (progress.feed limit chunk).2.filter fun frame => frame.token = token) := by
  induction chunk generalizing progress with
  | nil => simp
  | cons byte chunk ih =>
      have first := skip_push token limit progress byte (chunk ++ rest)
      have later := ih (progress.push limit byte).1
      have split : select (progress.kept token limit (byte :: (chunk ++ rest))) (byte :: chunk) =
          (if progress.foreign token limit (byte :: (chunk ++ rest)) then [] else [byte]) ++
            select ((progress.push limit byte).1.kept token limit (chunk ++ rest)) chunk := by
        cases foreign : progress.foreign token limit (byte :: (chunk ++ rest)) <;>
          simp [kept, select, foreign]
      rw [List.cons_append, split, feed_append, first, later, feed_cons, List.filter_append]

theorem drop_kept (token : UInt64) (limit : Nat) (progress : Progress) (chunk rest : List UInt8) :
    (progress.kept token limit (chunk ++ rest)).drop chunk.length =
      (progress.feed limit chunk).1.kept token limit rest := by
  induction chunk generalizing progress with
  | nil => rfl
  | cons byte chunk ih => simp [kept, feed_cons, ih]

theorem kept_of_unfound {token : UInt64} {limit : Nat} {progress : Progress}
    {stream : List UInt8} (unfound : (progress.feed limit stream).2 = []) :
    progress.kept token limit stream = List.replicate stream.length true := by
  induction stream generalizing progress with
  | nil => rfl
  | cons byte rest ih =>
      have own : progress.foreign token limit (byte :: rest) = false := foreign_of_unfound unfound
      rw [feed_cons, List.append_eq_nil_iff] at unfound
      rw [kept, own, ih unfound.2]
      rfl

theorem kept_of_found {token : UInt64} {limit : Nat} {progress : Progress} {bytes : List UInt8}
    {last : UInt8} {frame : Frame} (unfound : (progress.feed limit bytes).2 = [])
    (found : ((progress.feed limit bytes).1.push limit last).2 = some frame)
    (rest : List UInt8) :
    progress.kept token limit (bytes ++ last :: rest) =
      List.replicate (bytes.length + 1) (frame.token == token) ++ start.kept token limit rest := by
  induction bytes generalizing progress with
  | nil =>
      rw [feed_nil] at found
      simp [kept, foreign_cons, found, push_found found, bne]
  | cons byte bytes ih =>
      have own : progress.foreign token limit (byte :: bytes ++ last :: rest) =
          (frame.token != token) := by
        rw [foreign, feed_append, unfound, feed_cons, found]
        rfl
      rw [feed_cons, List.append_eq_nil_iff] at unfound
      rw [feed_cons] at found
      rw [List.cons_append] at own ⊢
      rw [kept, own, ih unfound.2 found]
      simp [List.replicate_succ, bne]

/-- No boundary is reached but by completing a frame. -/
theorem push_unfound {limit : Nat} {progress : Progress} {byte : UInt8}
    (unfound : (progress.push limit byte).2 = none) : (progress.push limit byte).1 ≠ start := by
  cases progress with
  | header bytes =>
      simp only [push] at unfound ⊢
      split
      · simp [start]
      · rename_i whole
        rw [if_neg whole] at unfound
        split at unfound <;> simp_all [start]
  | payload token missing bytes =>
      simp only [push] at unfound ⊢
      split
      · rename_i last
        simp [last] at unfound
      · simp [start]
  | failed fault => simp [push, start]

/-- The bytes of a whole frame are left together or taken out together. -/
theorem kept_of_whole {token : UInt64} {limit : Nat} {bytes : List UInt8} {frame : Frame}
    (whole : start.feed limit bytes = (start, [frame])) (rest : List UInt8) :
    start.kept token limit (bytes ++ rest) =
      List.replicate bytes.length (frame.token == token) ++ start.kept token limit rest := by
  have nonempty : bytes ≠ [] := by
    rintro rfl
    simp at whole
  obtain ⟨init, last, rfl⟩ : ∃ init last, bytes = init ++ [last] :=
    ⟨bytes.dropLast, bytes.getLast nonempty, (List.dropLast_concat_getLast nonempty).symm⟩
  rw [feed_append, feed_cons] at whole
  obtain ⟨boundary, frames⟩ := Prod.mk.inj whole
  simp only [feed_nil] at boundary frames
  cases found : ((start.feed limit init).1.push limit last).2 with
  | none => exact absurd boundary (push_unfound found)
  | some other =>
      rw [found] at frames
      obtain ⟨unfound, rfl⟩ : (start.feed limit init).2 = [] ∧ other = frame := by
        simpa [List.append_eq_singleton_iff] using frames
      rw [List.append_assoc, List.singleton_append, kept_of_found unfound found,
        List.length_append, List.length_singleton]

/-- What is left of a stream is told by its frames. -/
theorem kept_start (token : UInt64) (limit : Nat) (stream : List UInt8) :
    start.kept token limit stream = Frame.kept token limit stream := by
  have unfound (stream : List UInt8) (ending : StreamEnd)
      (parsed : parse limit stream = ([], ending)) :
      start.kept token limit stream = List.replicate stream.length true := by
    have read := feed_start_eq_parse limit stream
    rw [parsed] at read
    exact kept_of_unfound (Prod.mk.inj read).1
  rw [Frame.kept]
  -- where parsing stops without a frame, nothing is taken out
  have frameless := unfound stream
  fun_induction parse limit stream with
  | case1 stream short => simpa using frameless _ rfl
  | case2 stream long fault refused => simpa using frameless _ rfl
  | case3 stream long token length decoded behind short => simpa using frameless _ rfl
  | case4 stream long other length decoded behind enough frames ending parsed ih =>
      have header : (stream.take headerSize).length = headerSize := by
        rw [List.length_take]
        omega
      have payload : (behind.take length).length = length := by
        rw [List.length_take]
        omega
      have split : stream = stream.take headerSize ++ behind.take length ++ behind.drop length := by
        rw [List.append_assoc, List.take_append_drop, List.take_append_drop]
      have whole : (stream.take headerSize ++ behind.take length).length =
          size ⟨other, ⟨(behind.take length).toArray⟩⟩ := by
        rw [List.length_append, header]
        rfl
      have total : stream.length =
          size ⟨other, ⟨(behind.take length).toArray⟩⟩ + (behind.drop length).length := by
        rw [← whole, ← List.length_append, ← split]
      have later := ih (unfound (behind.drop length))
      rw [parsed] at later
      have marks : start.kept token limit _ = _ :=
        kept_of_whole (feed_frame header decoded payload) (behind.drop length)
      rw [← split, later, whole] at marks
      rw [marks, List.flatMap_cons, List.append_assoc, List.length_append, List.length_replicate,
        total, Nat.add_sub_add_left]

end Progress

/-- What is left of a stream parses to the frames of the token. -/
theorem parse_select_kept (token : UInt64) (limit : Nat) (stream : List UInt8) :
    parse limit (select (kept token limit stream) stream) =
      ((parse limit stream).1.filter fun frame => frame.token = token, (parse limit stream).2) := by
  have read := Progress.feed_start_eq_parse limit stream
  have left := Progress.feed_select token limit .start stream []
  rw [List.append_nil, Progress.kept_start, Progress.skip_start] at left
  have settled (progress : Progress) : progress.skip token limit [] = progress := by
    simp [Progress.skip, Progress.foreign]
  rw [settled] at left
  rw [← Progress.feed_start_eq_parse, left, ← read]

end QueryDriver.Frame
