import QueryDriver.Proofs.Frame.Wire

/-!
Frames under other tokens. Where every header of a stream bears another token, the same frames are
found at the same bytes, and reading stops at the same byte.
-/

namespace QueryDriver.Frame

variable {change : UInt64 → UInt64} {limit : Nat}

/-- The frame under another token. -/
def readdress (change : UInt64 → UInt64) (frame : Frame) : Frame :=
  { frame with token := change frame.token }

theorem parse_take_bytes (frame : Frame) (small : frame.payload.size < UInt32.size)
    (allowed : frame.payload.size ≤ limit) {count : Nat} (part : count < frame.size) :
    parse limit (frame.bytes.take count) = ([], if count = 0 then .boundary else .cut) := by
  have available : count < frame.bytes.length := by
    rw [length_bytes]
    exact part
  by_cases few : count < headerSize
  · have taken : (frame.bytes.take count).length = count := by
      rw [List.length_take]
      omega
    rw [parse_short limit (by omega)]
    by_cases nothing : count = 0
    · simp [nothing]
    · have some : (frame.bytes.take count).isEmpty = false := by
        rw [List.isEmpty_eq_false_iff, ← List.length_pos_iff]
        omega
      simp [nothing, some]
  · have cut : (frame.payload.data.toList.take (count - headerSize)).length <
        frame.payload.size := by
      rw [size] at part
      rw [List.length_take]
      omega
    have positive : count ≠ 0 := by
      rintro rfl
      exact few (by decide)
    rw [bytes, take_header _ _ _ (by omega), parse_header limit frame.token small,
      if_neg (by omega), if_pos cut, if_neg positive]

namespace Progress

variable {reader other : Progress}

/-- Two readers of which the second has, after any number of bytes, found the frames of the first
under other tokens, and stands as the first does. -/
structure Readdressed (change : UInt64 → UInt64) (limit : Nat) (reader other : Progress)
    (stream changed : List UInt8) : Prop where
  length : changed.length = stream.length
  found (count : Nat) : (other.feed limit (changed.take count)).2 =
    (reader.feed limit (stream.take count)).2.map (readdress change)
  ending (count : Nat) : (other.feed limit (changed.take count)).1.ending =
    (reader.feed limit (stream.take count)).1.ending

theorem Readdressed.front {first second rest changed : List UInt8}
    (same : Readdressed change limit reader other (first ++ rest) (second ++ changed))
    (length : second.length = first.length) :
    (other.feed limit second).2 = (reader.feed limit first).2.map (readdress change) ∧
      (other.feed limit second).1.ending = (reader.feed limit first).1.ending := by
  have found := same.found first.length
  have ending := same.ending first.length
  rw [List.take_left, ← length, List.take_left] at found ending
  exact ⟨found, ending⟩

theorem Readdressed.behind {first second rest changed : List UInt8}
    (same : Readdressed change limit reader other (first ++ rest) (second ++ changed))
    (length : second.length = first.length) :
    Readdressed change limit (reader.feed limit first).1 (other.feed limit second).1 rest
      changed := by
  have before := (same.front length).1
  refine ⟨?_, ?_, ?_⟩
  · have total := same.length
    simp only [List.length_append] at total
    omega
  · intro count
    have found := same.found (first.length + count)
    rw [List.take_length_add_append, ← length, List.take_length_add_append, feed_append,
      feed_append, List.map_append, ← before] at found
    exact List.append_cancel_left found
  · intro count
    have ending := same.ending (first.length + count)
    rw [List.take_length_add_append, ← length, List.take_length_add_append, feed_append,
      feed_append] at ending
    exact ending

theorem Readdressed.append {first second rest changed : List UInt8}
    (front : Readdressed change limit reader other first second)
    (behind : Readdressed change limit (reader.feed limit first).1 (other.feed limit second).1
      rest changed) :
    Readdressed change limit reader other (first ++ rest) (second ++ changed) := by
  have length := front.length
  have whole := front.found first.length
  rw [← length, List.take_length, length, List.take_length] at whole
  refine ⟨?_, ?_, ?_⟩
  · rw [List.length_append, List.length_append, length, behind.length]
  · intro count
    by_cases few : count ≤ first.length
    · rw [List.take_append_of_le_length few, List.take_append_of_le_length (by omega), front.found]
    · obtain ⟨more, rfl⟩ := Nat.exists_eq_add_of_le (Nat.le_of_not_le few)
      rw [List.take_length_add_append, ← length, List.take_length_add_append, feed_append,
        feed_append, List.map_append, whole, behind.found]
  · intro count
    by_cases few : count ≤ first.length
    · rw [List.take_append_of_le_length few, List.take_append_of_le_length (by omega), front.ending]
    · obtain ⟨more, rfl⟩ := Nat.exists_eq_add_of_le (Nat.le_of_not_le few)
      rw [List.take_length_add_append, ← length, List.take_length_add_append, feed_append,
        feed_append, behind.ending]

/-- A stream stays as it is where the tokens of its frames do. -/
theorem Readdressed.unchanged {stream : List UInt8}
    (fixed : ∀ frame ∈ (reader.feed limit stream).2, change frame.token = frame.token) :
    Readdressed change limit reader reader stream stream := by
  refine ⟨rfl, ?_, fun _ => rfl⟩
  intro count
  have split := feed_append limit reader (stream.take count) (stream.drop count)
  rw [List.take_append_drop] at split
  rw [split] at fixed
  have same : ∀ frame ∈ (reader.feed limit (stream.take count)).2,
      frame = readdress change frame := by
    intro frame member
    rw [readdress, fixed frame (List.mem_append_left _ member)]
  exact (List.map_id _).symm.trans (List.map_congr_left same)

theorem feed_bytes (frame : Frame) (small : frame.payload.size < UInt32.size)
    (allowed : frame.payload.size ≤ limit) : start.feed limit frame.bytes = (start, [frame]) := by
  have decoded : decodeHeader limit (Frame.header frame.token frame.payload.size) =
      .ok (frame.token, frame.payload.size) := by
    rw [decodeHeader_header limit frame.token small, if_neg (by omega)]
  exact feed_frame (length_header _ _) decoded rfl

theorem Readdressed.frame {frame : Frame} (small : frame.payload.size < UInt32.size)
    (allowed : frame.payload.size ≤ limit) :
    Readdressed change limit start start frame.bytes (frame.readdress change).bytes := by
  have length : (frame.readdress change).bytes.length = frame.bytes.length := by
    rw [length_bytes, length_bytes]
    rfl
  have read (count : Nat) :
      (start.feed limit ((frame.readdress change).bytes.take count)).2 =
          (start.feed limit (frame.bytes.take count)).2.map (Frame.readdress change) ∧
        (start.feed limit ((frame.readdress change).bytes.take count)).1.ending =
          (start.feed limit (frame.bytes.take count)).1.ending := by
    by_cases part : count < frame.size
    · have ofFrame := feed_start_eq_parse limit (frame.bytes.take count)
      have ofOther := feed_start_eq_parse limit ((frame.readdress change).bytes.take count)
      rw [parse_take_bytes frame small allowed part] at ofFrame
      rw [parse_take_bytes (frame.readdress change) small allowed part] at ofOther
      obtain ⟨found, ending⟩ := Prod.mk.inj ofFrame
      obtain ⟨foundOther, endingOther⟩ := Prod.mk.inj ofOther
      rw [found, foundOther, ending, endingOther]
      exact ⟨rfl, rfl⟩
    · have whole : frame.bytes.length ≤ count := by
        rw [length_bytes]
        omega
      rw [List.take_of_length_le whole, List.take_of_length_le (length ▸ whole),
        feed_bytes frame small allowed, feed_bytes (frame.readdress change) small allowed]
      exact ⟨rfl, rfl⟩
  exact ⟨length, fun count => (read count).1, fun count => (read count).2⟩

/-- Every stream has a counterpart under other tokens. -/
theorem exists_readdressed_start (change : UInt64 → UInt64) (limit : Nat) (stream : List UInt8) :
    ∃ changed, Readdressed change limit start start stream changed := by
  have layout : Layout limit stream (parse limit stream).1 (parse limit stream).2 :=
    layout_iff_parse.mpr rfl
  generalize (parse limit stream).1 = frames at layout
  generalize (parse limit stream).2 = stop at layout
  have frameless (stream : List UInt8) (stop : StreamEnd) (layout : Layout limit stream [] stop) :
      Readdressed change limit start start stream stream := by
    apply Readdressed.unchanged
    have read := congrArg Prod.fst (feed_start_eq_parse limit stream)
    rw [layout_iff_parse.mp layout] at read
    rw [show (start.feed limit stream).2 = [] from read]
    exact List.forall_mem_nil _
  induction layout with
  | boundary => exact ⟨_, frameless _ _ .boundary⟩
  | cutHeader nonempty short => exact ⟨_, frameless _ _ (.cutHeader nonempty short)⟩
  | cutPayload token small allowed short =>
      exact ⟨_, frameless _ _ (.cutPayload token small allowed short)⟩
  | refused token rest small above => exact ⟨_, frameless _ _ (.refused token rest small above)⟩
  | @frame frame rest frames stop small allowed _ ih =>
      obtain ⟨changed, same⟩ := ih
      refine ⟨(frame.readdress change).bytes ++ changed, (Readdressed.frame small allowed).append ?_⟩
      rw [feed_bytes frame small allowed, feed_bytes (frame.readdress change) small allowed]
      exact same

/-- The first frame that a stream completes ends somewhere in it. -/
theorem exists_first_found {stream : List UInt8} {frame : Frame} {others : List Frame}
    (found : (reader.feed limit stream).2 = frame :: others) :
    ∃ front rest, stream = front ++ rest ∧ reader.feed limit front = (start, [frame]) := by
  induction stream generalizing reader with
  | nil => simp at found
  | cons byte rest ih =>
      rw [feed_cons] at found
      cases first : (reader.push limit byte).2 with
      | some other =>
          rw [first] at found
          obtain ⟨rfl, _⟩ := List.cons.inj found
          refine ⟨[byte], rest, rfl, ?_⟩
          rw [feed_cons, first, push_found first]
          rfl
      | none =>
          rw [first] at found
          obtain ⟨front, behind, rfl, whole⟩ := ih found
          refine ⟨byte :: front, behind, rfl, ?_⟩
          rw [feed_cons, first, whole]
          rfl

/-- The frame of which some bytes are there, if the stream completes it. -/
def underway? (limit : Nat) (stream : List UInt8) : Progress → Option Frame
  | .header [] => none
  | reader => (reader.feed limit stream).2.head?

theorem start_or_underway (limit : Nat) (stream : List UInt8) (reader : Progress) :
    reader = start ∨ reader.underway? limit stream = (reader.feed limit stream).2.head? := by
  cases reader with
  | header bytes =>
      cases bytes with
      | nil => exact .inl rfl
      | cons byte rest => exact .inr rfl
  | payload token missing bytes => exact .inr rfl
  | failed fault => exact .inr rfl

/-- Every stream has a counterpart under other tokens, unless a frame that has begun would need
another one. -/
theorem exists_readdressed {stream : List UInt8}
    (fixed : ∀ frame ∈ reader.underway? limit stream, change frame.token = frame.token) :
    ∃ changed, Readdressed change limit reader reader stream changed := by
  rcases start_or_underway limit stream reader with rfl | underway
  · exact exists_readdressed_start change limit stream
  · rw [underway] at fixed
    cases found : (reader.feed limit stream).2 with
    | nil => exact ⟨stream, .unchanged (found ▸ List.forall_mem_nil _)⟩
    | cons frame others =>
        obtain ⟨front, rest, rfl, whole⟩ := exists_first_found found
        obtain ⟨changed, same⟩ := exists_readdressed_start change limit rest
        have stays : Readdressed change limit reader reader front front := by
          apply Readdressed.unchanged
          rw [whole, List.forall_mem_singleton]
          exact fixed frame (by rw [found]; rfl)
        refine ⟨front ++ changed, stays.append ?_⟩
        rw [whole]
        exact same

end Progress

end QueryDriver.Frame
