import QueryDriver.Handshake.Frame

/-!
Where a handshake frame ends. It ends at the first zero byte, which must be among so many bytes as
a frame may have; bytes that arrive later change nothing about a frame that is decided on.
-/

namespace QueryDriver.Handshake

/-- A text without a zero byte and the zero byte that ends it. -/
def IsFrame (frame : List UInt8) : Prop :=
  frame.length ≤ 65536 ∧ ∃ body, frame = body ++ [0] ∧ 0 ∉ body

theorem isFrame_iff (frame : List UInt8) :
    IsFrame frame ↔
      frame.length ≤ 65536 ∧ frame = frame.dropLast ++ [0] ∧ 0 ∉ frame.dropLast := by
  constructor
  · rintro ⟨short, body, rfl, plain⟩
    rw [List.dropLast_concat]
    exact ⟨short, rfl, plain⟩
  · rintro ⟨short, same, plain⟩
    exact ⟨short, _, same, plain⟩

instance (frame : List UInt8) : Decidable (IsFrame frame) :=
  decidable_of_iff _ (isFrame_iff frame).symm

theorem IsFrame.plain {body : List UInt8} (frame : IsFrame (body ++ [terminator])) :
    terminator ∉ body := by
  obtain ⟨_, start, same, plain⟩ := frame
  rw [List.append_cancel_right same]
  exact plain

theorem takeWhile_plain {input : List UInt8} (plain : terminator ∉ input) (rest : List UInt8) :
    (input ++ rest).takeWhile (fun byte => byte ≠ terminator) =
      input ++ rest.takeWhile fun byte => byte ≠ terminator := by
  apply List.takeWhile_append_of_pos
  intro byte member
  exact decide_eq_true fun same => plain (same ▸ member)

theorem nextFrame_plain {input : List UInt8} (plain : terminator ∉ input) :
    nextFrame input = if input.length < maxFrame then .incomplete else .tooLong := by
  have whole : input.takeWhile (fun byte => byte ≠ terminator) = input := by
    simpa using takeWhile_plain plain []
  simp only [nextFrame, ← List.take_takeWhile, whole, List.length_take]
  by_cases short : input.length < maxFrame
  · have less : min maxFrame input.length = input.length := by omega
    rw [less, if_neg (by omega), if_pos short, List.drop_length]
  · rw [if_pos (by omega), if_neg short]

theorem nextFrame_frame {body : List UInt8} (plain : terminator ∉ body) (rest : List UInt8) :
    nextFrame (body ++ terminator :: rest) =
      if body.length < maxFrame then .found body rest else .tooLong := by
  have whole : (body ++ terminator :: rest).takeWhile (fun byte => byte ≠ terminator) = body := by
    simpa using takeWhile_plain plain (terminator :: rest)
  simp only [nextFrame, ← List.take_takeWhile, whole, List.length_take]
  by_cases short : body.length < maxFrame
  · have less : min maxFrame body.length = body.length := by omega
    rw [less, if_neg (by omega), if_pos short, List.drop_left, List.take_of_length_le (by omega)]
  · rw [if_pos (by omega), if_neg short]

theorem nextFrame_eq_found_iff {input body rest : List UInt8} :
    nextFrame input = .found body rest ↔
      IsFrame (body ++ [terminator]) ∧ input = body ++ [terminator] ++ rest := by
  constructor
  · intro found
    by_cases ended : terminator ∈ input
    · obtain ⟨start, behind, same, plain⟩ := List.eq_append_cons_of_mem ended
      rw [same, nextFrame_frame plain] at found
      split at found
      · rename_i short
        injection found with sameBody sameRest
        subst sameBody sameRest
        refine ⟨⟨?_, start, rfl, plain⟩, by simp [same]⟩
        rw [List.length_append, List.length_singleton]
        exact short
      · cases found
    · rw [nextFrame_plain ended] at found
      split at found <;> cases found
  · rintro ⟨⟨short, start, same, plain⟩, rfl⟩
    have sameBody : body = start := List.append_cancel_right same
    subst sameBody
    rw [List.length_append, List.length_singleton] at short
    have placed := nextFrame_frame plain rest
    rw [if_pos (by exact short)] at placed
    simpa using placed

theorem nextFrame_eq_tooLong_iff {input : List UInt8} :
    nextFrame input = .tooLong ↔
      maxFrame ≤ input.length ∧ terminator ∉ input.take maxFrame := by
  constructor
  · intro found
    have full : ((input.take maxFrame).takeWhile fun byte => byte ≠ terminator).length =
        maxFrame := by
      rw [nextFrame] at found
      split at found
      · assumption
      · split at found <;> cases found
    have part : _ <+: input.take maxFrame := List.takeWhile_prefix fun byte => byte ≠ terminator
    have bound := part.length_le
    rw [full, List.length_take] at bound
    have same := part.eq_of_length_le (by rw [full, List.length_take]; omega)
    refine ⟨by omega, fun member => ?_⟩
    rw [← same] at member
    have other := List.all_eq_true.mp List.all_takeWhile terminator member
    simp at other
  · rintro ⟨long, absent⟩
    have whole := takeWhile_plain absent []
    simp only [List.append_nil, List.takeWhile_nil] at whole
    simp only [nextFrame, whole, List.length_take]
    rw [if_pos (by omega)]

theorem nextFrame_found_append {input body rest : List UInt8}
    (found : nextFrame input = .found body rest) (more : List UInt8) :
    nextFrame (input ++ more) = .found body (rest ++ more) := by
  obtain ⟨frame, same⟩ := nextFrame_eq_found_iff.mp found
  refine nextFrame_eq_found_iff.mpr ⟨frame, ?_⟩
  rw [same, List.append_assoc]

theorem nextFrame_tooLong_append {input : List UInt8} (found : nextFrame input = .tooLong)
    (more : List UInt8) : nextFrame (input ++ more) = .tooLong := by
  obtain ⟨long, absent⟩ := nextFrame_eq_tooLong_iff.mp found
  refine nextFrame_eq_tooLong_iff.mpr ⟨by rw [List.length_append]; omega, ?_⟩
  rw [List.take_append_of_le_length long]
  exact absent

theorem frameBody_frame (body : List UInt8) : frameBody (body ++ [terminator]) = body := by
  simp [frameBody]

theorem frameBody_plain {body : List UInt8} (plain : terminator ∉ body) :
    frameBody body = body := by
  rw [frameBody, if_neg]
  exact fun last => plain (List.mem_of_getLast? last)

theorem decode_frame {α : Type} [Message α] {body : List UInt8} (plain : terminator ∉ body) :
    (decode (body ++ [terminator]) : Except ProtocolError α) = decode body := by
  rw [decode, decode, frameBody_frame, frameBody_plain plain]

end QueryDriver.Handshake
