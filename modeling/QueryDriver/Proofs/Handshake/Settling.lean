import QueryDriver.Handshake.Negotiation
import QueryDriver.Proofs.Handshake.Replies

/-!
A handshake goes as far as the bytes that have arrived allow, so it does not matter how they were
cut. Only a handshake that waits for a frame looks at what has not arrived yet.
-/

namespace QueryDriver.Handshake.Negotiation

variable {functions : Hash.Functions}

def arrive (negotiation : Negotiation) (chunk : List UInt8) : Negotiation :=
  { negotiation with unread := negotiation.unread ++ chunk }

theorem receive_eq (functions : Hash.Functions) (negotiation : Negotiation) (chunk : List UInt8) :
    negotiation.receive functions chunk = (negotiation.arrive chunk).settle functions :=
  rfl

theorem arrive_arrive (negotiation : Negotiation) (first second : List UInt8) :
    (negotiation.arrive first).arrive second = negotiation.arrive (first ++ second) := by
  simp only [arrive, List.append_assoc]

theorem arrive_nil (negotiation : Negotiation) : negotiation.arrive [] = negotiation := by
  simp only [arrive, List.append_nil]

theorem move_of_over {negotiation : Negotiation} {outcome : Except ClientError Unit}
    (isOver : negotiation.result = some outcome) : negotiation.move functions = negotiation := by
  simp only [move, isOver]

theorem endOfStream_of_over {negotiation : Negotiation} {outcome : Except ClientError Unit}
    (isOver : negotiation.result = some outcome) : negotiation.endOfStream = negotiation := by
  simp only [endOfStream, isOver]

theorem over_endOfStream (negotiation : Negotiation) : negotiation.endOfStream.result ≠ none := by
  intro going
  cases isOver : negotiation.result with
  | none =>
      rw [endOfStream, isOver] at going
      cases going
  | some outcome =>
      rw [endOfStream_of_over isOver, isOver] at going
      cases going

theorem move_reading {negotiation : Negotiation} (going : negotiation.result = none)
    (silent : negotiation.attempt.outgoing functions = .ok none) :
    negotiation.move functions = negotiation.read functions := by
  simp only [move, going, silent]

theorem move_writing {negotiation : Negotiation} (going : negotiation.result = none)
    {message : ByteArray} {next : Attempt}
    (sends : negotiation.attempt.outgoing functions = .ok (some (message, next))) :
    negotiation.move functions = negotiation.write message next := by
  simp only [move, going, sends]

theorem move_failing {negotiation : Negotiation} (going : negotiation.result = none)
    {error : ProtocolError} (fails : negotiation.attempt.outgoing functions = .error error) :
    negotiation.move functions = negotiation.fail (.ofProtocol error) := by
  simp only [move, going, fails]

/-- What a move can do. -/
inductive Moved (functions : Hash.Functions) (negotiation : Negotiation) : Negotiation → Prop
  | rests : Moved functions negotiation negotiation
  | fails (going : negotiation.result = none) (unread : List UInt8) (error : ClientError) :
      Moved functions negotiation ((negotiation.leaving unread).fail error)
  | sends (going : negotiation.result = none) {message : ByteArray} {next : Attempt}
      (sends : negotiation.attempt.outgoing functions = .ok (some (message, next))) :
      Moved functions negotiation
        { negotiation with attempt := next, sent := negotiation.sent ++ [message] }
  | reads (going : negotiation.result = none) {body rest : List UInt8} {next : Attempt}
      (frame : IsFrame (body ++ [terminator]))
      (waiting : negotiation.unread = body ++ [terminator] ++ rest)
      (accepted : negotiation.attempt.acceptReply functions body = .ok next) :
      Moved functions negotiation (negotiation.proceed next rest)

theorem moved_write {negotiation : Negotiation} (going : negotiation.result = none)
    {message : ByteArray} {next : Attempt}
    (sends : negotiation.attempt.outgoing functions = .ok (some (message, next))) :
    Moved functions negotiation (negotiation.write message next) := by
  rw [write]
  split
  · exact .fails going negotiation.unread _
  · exact .sends going sends

theorem moved_read {negotiation : Negotiation} (going : negotiation.result = none) :
    Moved functions negotiation (negotiation.read functions) := by
  cases next : nextFrame negotiation.unread with
  | incomplete =>
      simp only [read, next]
      exact .rests
  | tooLong =>
      simp only [read, next]
      exact .fails going _ _
  | found body rest =>
      obtain ⟨frame, waiting⟩ := nextFrame_eq_found_iff.mp next
      cases reply : negotiation.attempt.acceptReply functions body with
      | error error =>
          simp only [read, next, reply]
          exact .fails going rest _
      | ok after =>
          simp only [read, next, reply]
          exact .reads going frame waiting reply

theorem moved (functions : Hash.Functions) (negotiation : Negotiation) :
    Moved functions negotiation (negotiation.move functions) := by
  cases going : negotiation.result with
  | some outcome =>
      rw [move_of_over going]
      exact .rests
  | none =>
      cases sends : negotiation.attempt.outgoing functions with
      | error error =>
          rw [move_failing going sends]
          exact .fails going negotiation.unread _
      | ok message =>
          cases message with
          | none =>
              rw [move_reading going sends]
              exact moved_read going
          | some both =>
              rw [move_writing going sends]
              exact moved_write going sends

theorem arrive_write (negotiation : Negotiation) (message : ByteArray) (next : Attempt)
    (chunk : List UInt8) :
    (negotiation.write message next).arrive chunk =
      (negotiation.arrive chunk).write message next := by
  cases fault : negotiation.writeFault <;> simp only [write, arrive, fail, fault]

theorem arrive_read (negotiation : Negotiation) (chunk : List UInt8) :
    (negotiation.read functions).arrive chunk = negotiation.arrive chunk ∨
      (negotiation.read functions).arrive chunk = (negotiation.arrive chunk).read functions := by
  cases next : nextFrame negotiation.unread with
  | incomplete =>
      left
      simp only [read, next]
  | tooLong =>
      right
      have long := (nextFrame_eq_tooLong_iff.mp next).1
      simp only [read, arrive, next, nextFrame_tooLong_append next chunk, fail, leaving,
        List.drop_append_of_le_length long]
  | found body rest =>
      right
      simp only [read, arrive, next, nextFrame_found_append next chunk]
      cases negotiation.attempt.acceptReply functions body <;> rfl

theorem arrive_move (functions : Hash.Functions) (negotiation : Negotiation) (chunk : List UInt8) :
    (negotiation.move functions).arrive chunk = negotiation.arrive chunk ∨
      (negotiation.move functions).arrive chunk = (negotiation.arrive chunk).move functions := by
  cases going : negotiation.result with
  | some outcome =>
      left
      rw [move_of_over going]
  | none =>
      have still : (negotiation.arrive chunk).result = none := going
      cases sends : negotiation.attempt.outgoing functions with
      | error error =>
          right
          rw [move_failing going sends, move_failing still sends]
          rfl
      | ok message =>
          cases message with
          | none =>
              rw [move_reading going sends, move_reading still sends]
              exact arrive_read negotiation chunk
          | some both =>
              right
              rw [move_writing going sends, move_writing still sends]
              exact arrive_write negotiation both.1 both.2 chunk

theorem arrive_repeat (functions : Hash.Functions) (negotiation : Negotiation)
    (chunk : List UInt8) (count : Nat) :
    ∃ fewer, (Nat.repeat (move functions) count negotiation).arrive chunk =
      Nat.repeat (move functions) fewer (negotiation.arrive chunk) := by
  induction count with
  | zero => exact ⟨0, rfl⟩
  | succ count ih =>
      obtain ⟨fewer, same⟩ := ih
      let reached := Nat.repeat (move functions) count negotiation
      rcases arrive_move functions reached chunk with stays | moves
      · exact ⟨fewer, stays.trans same⟩
      · refine ⟨fewer + 1, moves.trans ?_⟩
        rw [same]
        rfl

/-- How many moves there can still be. -/
def movesLeft (negotiation : Negotiation) : Nat :=
  match negotiation.result, negotiation.attempt.stage with
  | some _, _ => 0
  | none, .init => 5
  | none, .versionChecked => 4
  | none, .clientFirstSent => 3
  | none, .serverFirstReceived => 2
  | none, _ => 1

theorem movesLeft_le (negotiation : Negotiation) : negotiation.movesLeft ≤ moveCount := by
  rw [movesLeft, moveCount]
  split <;> omega

theorem movesLeft_pos {negotiation : Negotiation} (going : negotiation.result = none) :
    0 < negotiation.movesLeft := by
  rw [movesLeft, going]
  split <;> simp_all

theorem movesLeft_of_leads {negotiation after : Negotiation} (going : negotiation.result = none)
    (leads : negotiation.attempt.stage.Leads after.attempt.stage)
    (ends : after.attempt.stage = .authenticated → after.result.isSome) :
    after.movesLeft < negotiation.movesLeft := by
  rw [movesLeft, movesLeft, going]
  generalize negotiation.attempt.stage = before at leads
  generalize after.attempt.stage = stage at leads ends
  cases leads <;> cases result : after.result <;> simp_all

theorem movesLeft_move (functions : Hash.Functions) (negotiation : Negotiation) :
    negotiation.move functions = negotiation ∨
      (negotiation.move functions).movesLeft < negotiation.movesLeft := by
  have moved := moved functions negotiation
  generalize negotiation.move functions = after at moved
  cases moved with
  | rests =>
      left
      rfl
  | fails going unread error =>
      right
      exact movesLeft_pos going
  | sends going message =>
      right
      obtain ⟨leads, before⟩ := Attempt.outgoing_leads message
      exact movesLeft_of_leads going leads fun last => absurd last before
  | reads going frame waiting accepted =>
      right
      refine movesLeft_of_leads going (Attempt.acceptReply_leads accepted) fun last => ?_
      exact congrArg Option.isSome (if_pos last)

theorem repeat_succ_inside {α : Type} (change : α → α) (count : Nat) (value : α) :
    Nat.repeat change (count + 1) value = Nat.repeat change count (change value) := by
  induction count with
  | zero => rfl
  | succ count ih => exact congrArg change ih

theorem repeat_add {α : Type} (change : α → α) (first second : Nat) (value : α) :
    Nat.repeat change second (Nat.repeat change first value) =
      Nat.repeat change (first + second) value := by
  induction second with
  | zero => rfl
  | succ second ih => exact congrArg change ih

theorem repeat_fixed {α : Type} {change : α → α} {value : α} (fixed : change value = value)
    (count : Nat) : Nat.repeat change count value = value := by
  induction count with
  | zero => rfl
  | succ count ih => exact (congrArg change ih).trans fixed

theorem move_repeat {negotiation : Negotiation} {count : Nat}
    (enough : negotiation.movesLeft ≤ count) :
    (Nat.repeat (move functions) count negotiation).move functions =
      Nat.repeat (move functions) count negotiation := by
  -- A move either changes nothing, now and later, or leaves fewer moves than before.
  induction count generalizing negotiation with
  | zero =>
      rcases movesLeft_move functions negotiation with stays | fewer
      · exact stays
      · omega
  | succ count ih =>
      rcases movesLeft_move functions negotiation with stays | fewer
      · rw [repeat_fixed stays, stays]
      · rw [repeat_succ_inside]
        exact ih (by omega)

theorem move_settle (functions : Hash.Functions) (negotiation : Negotiation) :
    (negotiation.settle functions).move functions = negotiation.settle functions :=
  move_repeat negotiation.movesLeft_le

theorem settle_repeat (functions : Hash.Functions) (negotiation : Negotiation) (count : Nat) :
    (Nat.repeat (move functions) count negotiation).settle functions =
      negotiation.settle functions := by
  rw [settle, repeat_add, Nat.add_comm, ← repeat_add]
  exact repeat_fixed (move_settle functions negotiation) count

theorem receive_receive (functions : Hash.Functions) (negotiation : Negotiation)
    (first second : List UInt8) :
    (negotiation.receive functions first).receive functions second =
      negotiation.receive functions (first ++ second) := by
  -- What was done before the second chunk can be done with it there, maybe in fewer moves: those
  -- that waited for it are not made again.
  obtain ⟨fewer, same⟩ := arrive_repeat functions (negotiation.arrive first) second moveCount
  calc ((negotiation.receive functions first).arrive second).settle functions
      = (Nat.repeat (move functions) fewer
          ((negotiation.arrive first).arrive second)).settle functions := by
        rw [receive_eq, ← same]
        rfl
    _ = ((negotiation.arrive first).arrive second).settle functions :=
        settle_repeat functions _ fewer
    _ = (negotiation.arrive (first ++ second)).settle functions := by rw [arrive_arrive]

theorem move_start (functions : Hash.Functions) (attempt : Attempt) :
    (start attempt).move functions = start attempt := by
  obtain ⟨stage, exchange, version⟩ := attempt
  cases stage <;> rfl

theorem receive_start_nil (functions : Hash.Functions) (attempt : Attempt) :
    (start attempt).receive functions [] = start attempt := by
  rw [receive_eq, arrive_nil]
  exact repeat_fixed (move_start functions attempt) moveCount

theorem foldl_receive (functions : Hash.Functions) (negotiation : Negotiation) (chunk : List UInt8)
    (chunks : List (List UInt8)) :
    chunks.foldl (receive functions) (negotiation.receive functions chunk) =
      negotiation.receive functions (chunk ++ chunks.flatten) := by
  induction chunks generalizing chunk with
  | nil => rw [List.foldl_nil, List.flatten_nil, List.append_nil]
  | cons next rest ih =>
      rw [List.foldl_cons, receive_receive, ih, List.flatten_cons, List.append_assoc]

/-- Only the bytes count, and not how they are cut. -/
theorem foldl_receive_start (functions : Hash.Functions) (attempt : Attempt)
    (chunks : List (List UInt8)) :
    chunks.foldl (receive functions) (start attempt) =
      (start attempt).receive functions chunks.flatten := by
  have all := foldl_receive functions (start attempt) [] chunks
  rw [receive_start_nil, List.nil_append] at all
  exact all

end QueryDriver.Handshake.Negotiation
