import QueryDriver.Frame.Reader
import QueryDriver.Frame.Stream

/-!
Reading query frames byte by byte. What the reader finds in a stream is what the stream parses to,
whatever the chunks in which it comes.
-/

namespace QueryDriver.Frame

namespace Progress

theorem feedFrom_eq (limit : Nat) (progress : Progress) (frames : List Frame)
    (bytes : List UInt8) :
    progress.feedFrom limit frames bytes =
      ((progress.feed limit bytes).1, frames.reverse ++ (progress.feed limit bytes).2) := by
  induction bytes generalizing progress frames with
  | nil => simp [feed, feedFrom]
  | cons byte rest ih =>
      simp only [feed, feedFrom]
      rw [ih, ih _ ((progress.push limit byte).2.toList ++ [])]
      cases (progress.push limit byte).2 <;> simp

@[simp] theorem feed_nil (limit : Nat) (progress : Progress) :
    progress.feed limit [] = (progress, []) := rfl

theorem feed_cons (limit : Nat) (progress : Progress) (byte : UInt8) (rest : List UInt8) :
    progress.feed limit (byte :: rest) =
      (((progress.push limit byte).1.feed limit rest).1,
        (progress.push limit byte).2.toList ++
          ((progress.push limit byte).1.feed limit rest).2) := by
  have fed := feedFrom_eq limit (progress.push limit byte).1
    ((progress.push limit byte).2.toList ++ []) rest
  rw [feed, feedFrom]
  exact fed.trans (by cases (progress.push limit byte).2 <;> rfl)

theorem feed_append (limit : Nat) (progress : Progress) (first second : List UInt8) :
    progress.feed limit (first ++ second) =
      (((progress.feed limit first).1.feed limit second).1,
        (progress.feed limit first).2 ++ ((progress.feed limit first).1.feed limit second).2) := by
  induction first generalizing progress with
  | nil => simp
  | cons byte rest ih => simp [feed_cons, ih]

theorem feed_failed (limit : Nat) (fault : MessageFault) (bytes : List UInt8) :
    (failed fault).feed limit bytes = (failed fault, []) := by
  induction bytes with
  | nil => rfl
  | cons byte rest ih => simp [feed_cons, push, ih]

/-- A frame is found at its last byte, and the next frame starts behind it. -/
theorem push_found {limit : Nat} {progress : Progress} {byte : UInt8} {frame : Frame}
    (found : (progress.push limit byte).2 = some frame) :
    (progress.push limit byte).1 = start := by
  cases progress with
  | header bytes =>
      simp only [push] at found ⊢
      split at found
      · simp at found
      · rename_i whole
        rw [if_neg whole]
        split at found <;> simp_all
  | payload token missing bytes =>
      simp only [push] at found ⊢
      split at found
      · rename_i last
        rw [if_pos last]
      · simp at found
  | failed fault => simp [push] at found

theorem feed_header {limit : Nat} {found bytes : List UInt8}
    (short : found.length + bytes.length < headerSize) :
    (header found).feed limit bytes = (header (bytes.reverse ++ found), []) := by
  induction bytes generalizing found with
  | nil => rfl
  | cons byte rest ih =>
      simp only [List.length_cons] at short
      have more : found.length + 1 < headerSize := by omega
      have later : (byte :: found).length + rest.length < headerSize := by
        simp only [List.length_cons]
        omega
      simp [feed_cons, push, more, ih later]

theorem feed_payload {limit : Nat} {token : UInt64} {missing : Nat} {found bytes : List UInt8}
    (short : bytes.length < missing) :
    (payload token missing found).feed limit bytes =
      (payload token (missing - bytes.length) (bytes.reverse ++ found), []) := by
  induction bytes generalizing missing found with
  | nil => rfl
  | cons byte rest ih =>
      simp only [List.length_cons] at short
      have more : ¬missing ≤ 1 := by omega
      have later : rest.length < missing - 1 := by omega
      have left : missing - 1 - rest.length = missing - (rest.length + 1) := by omega
      simp [feed_cons, push, more, ih later, left]

theorem push_header {limit : Nat} {found : List UInt8} {byte : UInt8}
    (last : found.length + 1 = headerSize) :
    (header found).push limit byte =
      match decodeHeader limit (byte :: found).reverse with
      | .error fault => (failed fault, none)
      | .ok (token, 0) => (start, some (complete token []))
      | .ok (token, missing) => (payload token missing [], none) := by
  have whole : ¬found.length + 1 < headerSize := by omega
  exact if_neg whole

theorem feed_header_whole (limit : Nat) {bytes : List UInt8} (whole : bytes.length = headerSize) :
    start.feed limit bytes =
      match decodeHeader limit bytes with
      | .error fault => (failed fault, [])
      | .ok (token, 0) => (start, [complete token []])
      | .ok (token, missing) => (payload token missing [], []) := by
  have nonempty : bytes ≠ [] := by
    rintro rfl
    simp [headerSize, tokenSize, lengthSize] at whole
  obtain ⟨init, byte, rfl⟩ : ∃ init byte, bytes = init ++ [byte] :=
    ⟨bytes.dropLast, bytes.getLast nonempty, (List.dropLast_concat_getLast nonempty).symm⟩
  rw [List.length_append, List.length_singleton] at whole
  have short : ([] : List UInt8).length + init.length < headerSize := by
    simp only [List.length_nil]
    omega
  have last : (init.reverse ++ []).length + 1 = headerSize := by simpa using whole
  rw [feed_append, start, feed_header short, feed_cons, push_header last]
  simp only [List.append_nil, List.reverse_cons, List.reverse_reverse, feed_nil, List.nil_append]
  split <;> rfl

theorem feed_payload_whole (limit : Nat) (token : UInt64) (found : List UInt8)
    {bytes : List UInt8} (nonempty : bytes ≠ []) :
    (payload token bytes.length found).feed limit bytes =
      (start, [complete token (bytes.reverse ++ found)]) := by
  obtain ⟨init, byte, rfl⟩ : ∃ init byte, bytes = init ++ [byte] :=
    ⟨bytes.dropLast, bytes.getLast nonempty, (List.dropLast_concat_getLast nonempty).symm⟩
  have short : init.length < (init ++ [byte]).length := by simp
  rw [feed_append, feed_payload short]
  simp [feed_cons, push]

theorem feed_frame {limit : Nat} {bytes behind : List UInt8} {token : UInt64} {length : Nat}
    (whole : bytes.length = headerSize) (decoded : decodeHeader limit bytes = .ok (token, length))
    (there : behind.length = length) :
    start.feed limit (bytes ++ behind) = (start, [⟨token, ⟨behind.toArray⟩⟩]) := by
  rw [feed_append, feed_header_whole limit whole, decoded]
  subst there
  cases behind with
  | nil => rfl
  | cons byte rest =>
      have found := feed_payload_whole limit token [] (List.cons_ne_nil byte rest)
      simp only [List.length_cons] at found ⊢
      simp [found, complete]

/-- Where the reader stands in the stream that it has read. -/
def ending : Progress → StreamEnd
  | .header [] => .boundary
  | .header _ => .cut
  | .payload _ _ _ => .cut
  | .failed fault => .refused fault

/-- The reader finds what a stream parses to, and stops where parsing stops. -/
theorem feed_start_eq_parse (limit : Nat) (stream : List UInt8) :
    ((start.feed limit stream).2, (start.feed limit stream).1.ending) = parse limit stream := by
  fun_induction parse limit stream with
  | case1 stream short =>
      have fed : start.feed limit stream = (header (stream.reverse ++ []), []) :=
        feed_header (by simpa using short)
      rw [fed]
      cases stream with
      | nil => rfl
      | cons byte rest => simp [ending]
  | case2 stream long fault refused =>
      have whole : (stream.take headerSize).length = headerSize := by
        rw [List.length_take]
        omega
      have fed := feed_append limit start (stream.take headerSize) (stream.drop headerSize)
      rw [List.take_append_drop, feed_header_whole limit whole, refused] at fed
      simp only [feed_failed] at fed
      rw [fed]
      rfl
  | case3 stream long token length decoded behind short =>
      have whole : (stream.take headerSize).length = headerSize := by
        rw [List.length_take]
        omega
      obtain ⟨missing, rfl⟩ : ∃ missing, length = missing + 1 :=
        Nat.exists_eq_add_one_of_ne_zero (by omega)
      have fed := feed_append limit start (stream.take headerSize) (stream.drop headerSize)
      rw [List.take_append_drop, feed_header_whole limit whole, decoded] at fed
      have cut : (payload token (missing + 1) []).feed limit (stream.drop headerSize) = _ :=
        feed_payload short
      rw [fed]
      simp only [cut]
      rfl
  | case4 stream long token length decoded behind enough frames ending parsed ih =>
      have whole : (stream.take headerSize).length = headerSize := by
        rw [List.length_take]
        omega
      have there : (behind.take length).length = length := by
        rw [List.length_take]
        omega
      have split : stream = stream.take headerSize ++ behind.take length ++ behind.drop length := by
        rw [List.append_assoc, List.take_append_drop, List.take_append_drop]
      rw [parsed] at ih
      have later := Prod.mk.inj ih
      rw [split, feed_append, feed_frame whole decoded there, later.1, later.2]
      rfl

end Progress

end QueryDriver.Frame
