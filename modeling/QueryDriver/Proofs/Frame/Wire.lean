import QueryDriver.Proofs.Frame.Selection

/-!
The layout of query frames on the wire. A stream parses to just what its layout says, a refused
header is noticed at its last byte, and frames that are written in turn parse back.
-/

namespace QueryDriver.Frame

@[simp] theorem length_littleEndian (width number : Nat) :
    (littleEndian width number).length = width := by
  induction width generalizing number with
  | zero => rfl
  | succ width ih => simp [littleEndian, ih]

theorem littleEndian_ofLittleEndian (bytes : List UInt8) :
    littleEndian bytes.length (ofLittleEndian bytes) = bytes := by
  induction bytes with
  | nil => rfl
  | cons byte rest ih =>
      have bound : byte.toNat < 256 := byte.toNat_lt
      have first : UInt8.ofNat (byte.toNat + 256 * ofLittleEndian rest) = byte := by
        apply UInt8.toNat_inj.mp
        rw [UInt8.toNat_ofNat']
        omega
      have others : (byte.toNat + 256 * ofLittleEndian rest) / 256 = ofLittleEndian rest := by
        omega
      rw [List.length_cons, ofLittleEndian, littleEndian, first, others, ih]

theorem ofLittleEndian_littleEndian {width number : Nat} (small : number < Nat.pow 256 width) :
    ofLittleEndian (littleEndian width number) = number := by
  induction width generalizing number with
  | zero =>
      have zero : number = 0 := Nat.lt_one_iff.mp small
      rw [zero]
      rfl
  | succ width ih =>
      have smaller : number / 256 < Nat.pow 256 width := by
        apply Nat.div_lt_of_lt_mul
        rw [Nat.mul_comm]
        exact small
      rw [littleEndian, ofLittleEndian, ih smaller, UInt8.toNat_ofNat']
      omega

theorem ofLittleEndian_lt (bytes : List UInt8) :
    ofLittleEndian bytes < Nat.pow 256 bytes.length := by
  induction bytes with
  | nil => exact Nat.one_pos
  | cons byte rest ih =>
      have bound : byte.toNat < 256 := byte.toNat_lt
      have power : Nat.pow 256 (byte :: rest).length = Nat.pow 256 rest.length * 256 := rfl
      rw [ofLittleEndian, power]
      omega

@[simp] theorem length_header (token : UInt64) (length : Nat) :
    (header token length).length = headerSize := by
  simp [header, headerSize]

theorem decodeHeader_header (limit : Nat) (token : UInt64) {length : Nat}
    (small : length < UInt32.size) :
    decodeHeader limit (header token length) =
      if limit < length then .error (.frameTooLong length limit) else .ok (token, length) := by
  have first : ofLittleEndian ((header token length).take tokenSize) = token.toNat := by
    rw [header, List.take_left' (length_littleEndian _ _)]
    exact ofLittleEndian_littleEndian token.toNat_lt
  have second : ofLittleEndian ((header token length).drop tokenSize) = length := by
    rw [header, List.drop_left' (length_littleEndian _ _)]
    exact ofLittleEndian_littleEndian small
  simp only [decodeHeader, first, second, UInt64.ofNat_toNat]

/-- Any bytes of the size of a header are the header of some token and length. -/
theorem exists_header {bytes : List UInt8} (whole : bytes.length = headerSize) :
    ∃ token length, length < UInt32.size ∧ bytes = header token length := by
  have front : (bytes.take tokenSize).length = tokenSize := by
    rw [List.length_take, whole]
    rfl
  have back : (bytes.drop tokenSize).length = lengthSize := by
    rw [List.length_drop, whole]
    rfl
  have tokenSmall := ofLittleEndian_lt (bytes.take tokenSize)
  have lengthSmall := ofLittleEndian_lt (bytes.drop tokenSize)
  have token := littleEndian_ofLittleEndian (bytes.take tokenSize)
  have length := littleEndian_ofLittleEndian (bytes.drop tokenSize)
  rw [front] at tokenSmall token
  rw [back] at lengthSmall length
  refine ⟨UInt64.ofNat (ofLittleEndian (bytes.take tokenSize)),
    ofLittleEndian (bytes.drop tokenSize), lengthSmall, ?_⟩
  rw [header, UInt64.toNat_ofNat_of_lt' tokenSmall, token, length, List.take_append_drop]

/-- The bytes of a frame in a stream. -/
def bytes (frame : Frame) : List UInt8 :=
  header frame.token frame.payload.size ++ frame.payload.data.toList

theorem length_bytes (frame : Frame) : frame.bytes.length = frame.size := by
  rw [bytes, List.length_append, length_header]
  rfl

def wire (frame : Frame) : ByteArray :=
  ⟨frame.bytes.toArray⟩

theorem encode_eq_wire {frame : Frame} (fits : frame.payload.size ≤ maxPayload) :
    encode frame = .ok frame.wire := by
  rw [encode, if_neg (by omega)]
  rfl

/-- What a stream consists of, if no payload may be longer than the limit. -/
inductive Layout (limit : Nat) : List UInt8 → List Frame → StreamEnd → Prop
  | boundary : Layout limit [] [] .boundary
  | cutHeader {rest : List UInt8} : rest ≠ [] → rest.length < headerSize →
      Layout limit rest [] .cut
  | cutPayload (token : UInt64) {length : Nat} {rest : List UInt8} : length < UInt32.size →
      length ≤ limit → rest.length < length → Layout limit (header token length ++ rest) [] .cut
  | refused (token : UInt64) {length : Nat} (rest : List UInt8) : length < UInt32.size →
      limit < length →
      Layout limit (header token length ++ rest) [] (.refused (.frameTooLong length limit))
  | frame {frame : Frame} {rest : List UInt8} {frames : List Frame} {ending : StreamEnd} :
      frame.payload.size < UInt32.size → frame.payload.size ≤ limit →
      Layout limit rest frames ending →
      Layout limit (frame.bytes ++ rest) (frame :: frames) ending

theorem parse_short (limit : Nat) {stream : List UInt8} (short : stream.length < headerSize) :
    parse limit stream = ([], if stream.isEmpty then .boundary else .cut) := by
  rw [parse, if_pos short]

theorem parse_header (limit : Nat) (token : UInt64) {length : Nat} (small : length < UInt32.size)
    (rest : List UInt8) :
    parse limit (header token length ++ rest) =
      if limit < length then ([], .refused (.frameTooLong length limit))
      else if rest.length < length then ([], .cut)
      else
        (⟨token, ⟨(rest.take length).toArray⟩⟩ :: (parse limit (rest.drop length)).1,
          (parse limit (rest.drop length)).2) := by
  have long : ¬(header token length ++ rest).length < headerSize := by
    rw [List.length_append, length_header]
    omega
  rw [parse, if_neg long, List.take_left' (length_header token length),
    List.drop_left' (length_header token length), decodeHeader_header limit token small]
  by_cases above : limit < length
  · simp [above]
  · simp only [above, if_false]

theorem parse_bytes (limit : Nat) {frame : Frame} (small : frame.payload.size < UInt32.size)
    (allowed : frame.payload.size ≤ limit) (rest : List UInt8) :
    parse limit (frame.bytes ++ rest) =
      (frame :: (parse limit rest).1, (parse limit rest).2) := by
  have payload : frame.payload.data.toList.length = frame.payload.size := rfl
  have enough : ¬(frame.payload.data.toList ++ rest).length < frame.payload.size := by
    rw [List.length_append, payload]
    omega
  rw [bytes, List.append_assoc, parse_header limit frame.token small, if_neg (by omega),
    if_neg enough, List.take_left' payload, List.drop_left' payload]

theorem size_payload_take (token : UInt64) {length : Nat} {rest : List UInt8}
    (enough : length ≤ rest.length) :
    (⟨token, ⟨(rest.take length).toArray⟩⟩ : Frame).payload.size = length := by
  change (rest.take length).length = length
  rw [List.length_take]
  omega

theorem header_append_eq (token : UInt64) {length : Nat} {rest : List UInt8}
    (enough : length ≤ rest.length) :
    header token length ++ rest =
      (⟨token, ⟨(rest.take length).toArray⟩⟩ : Frame).bytes ++ rest.drop length := by
  rw [bytes, size_payload_take token enough, List.append_assoc, List.take_append_drop]

/-- A stream parses to just what its layout says. -/
theorem layout_iff_parse {limit : Nat} {stream : List UInt8} {frames : List Frame}
    {ending : StreamEnd} :
    Layout limit stream frames ending ↔ parse limit stream = (frames, ending) := by
  constructor
  · intro layout
    induction layout with
    | boundary => rw [parse_short limit (by decide)]; rfl
    | cutHeader nonempty short => rw [parse_short limit short]; simp [nonempty]
    | cutPayload token small allowed short =>
        rw [parse_header limit token small, if_neg (by omega), if_pos short]
    | refused token rest small above => rw [parse_header limit token small, if_pos above]
    | frame small allowed _ ih => rw [parse_bytes limit small allowed, ih]
  · intro parsed
    induction total : stream.length using Nat.strongRecOn generalizing stream frames with
    | ind bound ih =>
        by_cases short : stream.length < headerSize
        · rw [parse_short limit short] at parsed
          obtain ⟨rfl, rfl⟩ := Prod.mk.inj parsed
          cases stream with
          | nil => exact .boundary
          | cons byte rest => exact .cutHeader (List.cons_ne_nil byte rest) short
        have whole : (stream.take headerSize).length = headerSize := by
          rw [List.length_take]
          omega
        obtain ⟨token, length, small, header⟩ := exists_header whole
        obtain ⟨rest, rfl⟩ : ∃ rest, stream = Frame.header token length ++ rest :=
          ⟨stream.drop headerSize, by rw [← header, List.take_append_drop]⟩
        rw [parse_header limit token small] at parsed
        by_cases above : limit < length
        · rw [if_pos above] at parsed
          obtain ⟨rfl, rfl⟩ := Prod.mk.inj parsed
          exact .refused token rest small above
        rw [if_neg above] at parsed
        by_cases cut : rest.length < length
        · rw [if_pos cut] at parsed
          obtain ⟨rfl, rfl⟩ := Prod.mk.inj parsed
          exact .cutPayload token small (by omega) cut
        rw [if_neg cut] at parsed
        obtain ⟨rfl, ending⟩ := Prod.mk.inj parsed
        have fewer : (rest.drop length).length < bound := by
          rw [← total, List.length_append, length_header, List.length_drop]
          simp only [headerSize, tokenSize, lengthSize]
          omega
        have later := ih _ fewer (Prod.ext rfl ending) rfl
        rw [header_append_eq token (by omega)]
        refine .frame ?_ ?_ later <;> rw [size_payload_take token (by omega)] <;> omega

theorem parse_take_short (limit : Nat) (stream : List UInt8) {count : Nat}
    (few : count < headerSize) (fault : MessageFault) :
    (parse limit (stream.take count)).2 ≠ .refused fault := by
  have short : (stream.take count).length < headerSize := by
    rw [List.length_take]
    omega
  rw [parse_short limit short]
  split <;> simp

theorem take_header (token : UInt64) (length : Nat) (rest : List UInt8) {count : Nat}
    (enough : headerSize ≤ count) :
    (header token length ++ rest).take count =
      header token length ++ rest.take (count - headerSize) := by
  have whole : (header token length).take count = header token length :=
    List.take_of_length_le (by rw [length_header]; omega)
  rw [List.take_append, whole, length_header]

/-- A refused stream is refused at the last byte of the header that is too long, and not before. -/
theorem parse_take_refused {limit : Nat} {stream : List UInt8} {frames : List Frame}
    {ending : StreamEnd} (layout : Layout limit stream frames ending) (count : Nat)
    (fault : MessageFault) :
    (parse limit (stream.take count)).2 = .refused fault ↔
      ending = .refused fault ∧ (frames.flatMap bytes).length + headerSize ≤ count := by
  induction layout generalizing count with
  | boundary =>
      rw [List.take_nil, parse_short limit (by decide)]
      simp
  | cutHeader nonempty short =>
      rw [parse_short limit (by rw [List.length_take]; omega)]
      split <;> simp
  | cutPayload token small allowed short =>
      by_cases few : count < headerSize
      · simp [parse_take_short limit _ few]
      · rw [take_header token _ _ (by omega), parse_header limit token small, if_neg (by omega),
          if_pos (by rw [List.length_take]; omega)]
        simp
  | refused token rest small above =>
      by_cases few : count < headerSize
      · have late : ¬headerSize ≤ count := by omega
        simp [parse_take_short limit _ few, late]
      · have enough : headerSize ≤ count := by omega
        rw [take_header token _ _ enough, parse_header limit token small, if_pos above]
        simp [enough]
  | @frame frame rest frames ending small allowed _ ih =>
      rw [List.flatMap_cons, List.length_append, length_bytes]
      by_cases few : count < headerSize
      · have late : ¬frame.size + (frames.flatMap bytes).length + headerSize ≤ count := by omega
        exact iff_of_false (parse_take_short limit _ few fault) fun both => late both.2
      by_cases part : count < frame.size
      · have late : ¬frame.size + (frames.flatMap bytes).length + headerSize ≤ count := by omega
        have cut : ((frame.payload.data.toList ++ rest).take (count - headerSize)).length <
            frame.payload.size := by
          rw [size] at part
          rw [List.length_take]
          omega
        rw [bytes, List.append_assoc, take_header _ _ _ (by omega),
          parse_header limit frame.token small, if_neg (by omega), if_pos cut]
        exact iff_of_false StreamEnd.noConfusion fun both => late both.2
      · have whole : frame.bytes.take count = frame.bytes :=
          List.take_of_length_le (by rw [length_bytes]; omega)
        rw [List.take_append, whole, length_bytes, parse_bytes limit small allowed, ih]
        constructor
        · exact fun ⟨refused, enough⟩ => ⟨refused, by omega⟩
        · exact fun ⟨refused, enough⟩ => ⟨refused, by omega⟩

/-- Frames that are written in turn are read in turn. -/
theorem layout_of_wires {limit : Nat} {frames : List Frame}
    (allowed : ∀ frame ∈ frames, frame.payload.size ≤ maxPayload ∧ frame.payload.size ≤ limit) :
    Layout limit ((frames.map wire).flatMap fun bytes => bytes.data.toList) frames .boundary := by
  rw [List.flatMap_map]
  induction frames with
  | nil => exact .boundary
  | cons frame rest ih =>
      have first := allowed frame List.mem_cons_self
      have small : maxPayload < UInt32.size := by decide
      rw [List.flatMap_cons]
      exact .frame (by omega) first.2 (ih fun other later => allowed other (.tail frame later))

end QueryDriver.Frame
