import Mathlib.Data.List.Basic
import QueryDriver.Proofs.Handshake.Settling
import QueryDriver.Proofs.Text

/-!
How a handshake that waits for a frame reads it, in whatever chunks the bytes come. The first zero
byte decides, as long as it is among as many bytes as a frame may have; what is behind those is not
needed to refuse the frame, and is not read.
-/

namespace QueryDriver.Handshake

/-- The stages at which nothing is sent before a reply has come. -/
inductive Stage.Listens : Stage → Prop
  | init : Listens .init
  | clientFirstSent : Listens .clientFirstSent
  | clientFinalSent : Listens .clientFinalSent

/-- The text of a frame is no message of the kind that a stage waits for, for the given reason. -/
def Stage.Misreads (stage : Stage) (body : List UInt8) (error : ProtocolError) : Prop :=
  if stage = .init then (decode body : Except ProtocolError VersionReply) = .error error
  else (decode body : Except ProtocolError AuthReply) = .error error

variable {functions : Hash.Functions}

theorem Attempt.outgoing_of_listens {attempt : Attempt} (listens : attempt.stage.Listens) :
    attempt.outgoing functions = .ok none := by
  obtain ⟨stage, exchange, version⟩ := attempt
  cases listens <;> rfl

theorem Attempt.acceptReply_of_misreads {attempt : Attempt} (listens : attempt.stage.Listens)
    {body : List UInt8} {error : ProtocolError} (misread : attempt.stage.Misreads body error) :
    attempt.acceptReply functions body = .error error := by
  obtain ⟨stage, exchange, version⟩ := attempt
  cases listens with
  | init =>
      have undecoded : (decode body : Except ProtocolError VersionReply) = .error error := misread
      rw [acceptReply, undecoded]
      rfl
  | clientFirstSent | clientFinalSent =>
      have undecoded : (decode body : Except ProtocolError AuthReply) = .error error := misread
      rw [acceptReply, undecoded]
      rfl

namespace Negotiation

/-- What a handshake makes of the text of a frame, once it has read the frame and left the rest. -/
def takeReply (functions : Hash.Functions) (negotiation : Negotiation) (body rest : List UInt8) :
    Negotiation :=
  match negotiation.attempt.acceptReply functions body with
  | .ok next => negotiation.proceed next rest
  | .error error => (negotiation.leaving rest).fail (.ofProtocol error)

theorem settle_of_over {negotiation : Negotiation} {outcome : Except ClientError Unit}
    (isOver : negotiation.result = some outcome) :
    negotiation.settle functions = negotiation :=
  repeat_fixed (move_of_over isOver) moveCount

theorem settle_move (functions : Hash.Functions) (negotiation : Negotiation) :
    (negotiation.move functions).settle functions = negotiation.settle functions :=
  settle_repeat functions negotiation 1

theorem foldl_receive_settle (functions : Hash.Functions) (negotiation : Negotiation)
    (chunks : List (List UInt8)) :
    chunks.foldl (receive functions) (negotiation.settle functions) =
      (negotiation.arrive chunks.flatten).settle functions := by
  have all := foldl_receive functions negotiation [] chunks
  rwa [receive_eq, arrive_nil, List.nil_append] at all

section Waiting

variable {negotiation : Negotiation}
variable (going : negotiation.result = none) (listens : negotiation.attempt.stage.Listens)

include going listens

theorem settle_waiting :
    negotiation.settle functions = (negotiation.read functions).settle functions := by
  rw [← move_reading going (Attempt.outgoing_of_listens listens), settle_move]

theorem settle_found {body rest : List UInt8}
    (found : nextFrame negotiation.unread = .found body rest) :
    negotiation.settle functions =
      (negotiation.takeReply functions body rest).settle functions := by
  have read : negotiation.read functions = negotiation.takeReply functions body rest := by
    rw [Negotiation.read, found]
    rfl
  rw [settle_waiting going listens, read]

theorem settle_tooLong (long : nextFrame negotiation.unread = .tooLong) :
    negotiation.settle functions =
      (negotiation.leaving (negotiation.unread.drop maxFrame)).fail
        (.protocol (.invalidMessage (.handshakeFrameTooLong maxFrame))) := by
  rw [settle_waiting going listens, Negotiation.read, long]
  exact settle_of_over rfl

theorem settle_incomplete (incomplete : nextFrame negotiation.unread = .incomplete) :
    negotiation.settle functions = negotiation := by
  have rests : negotiation.move functions = negotiation := by
    rw [move_reading going (Attempt.outgoing_of_listens listens), Negotiation.read, incomplete]
  exact repeat_fixed rests moveCount

end Waiting

end Negotiation

theorem nextFrame_of_mem_take {input : List UInt8} (ended : terminator ∈ input.take maxFrame) :
    ∃ body rest, input = body ++ terminator :: rest ∧ terminator ∉ body ∧
      nextFrame input = .found body rest := by
  obtain ⟨body, more, same, plain⟩ := List.eq_append_cons_of_mem ended
  have split : input = body ++ terminator :: (more ++ input.drop maxFrame) := by
    calc input = input.take maxFrame ++ input.drop maxFrame := (List.take_append_drop _ _).symm
      _ = body ++ terminator :: (more ++ input.drop maxFrame) := by
        rw [same, List.append_assoc, List.cons_append]
  have short : body.length < maxFrame := by
    have bound := congrArg List.length same
    rw [List.length_take, List.length_append, List.length_cons] at bound
    omega
  refine ⟨body, _, split, plain, ?_⟩
  have found := nextFrame_frame plain (more ++ input.drop maxFrame)
  rwa [if_pos short, ← split] at found

namespace Negotiation

/-- A letter is no start of a message. -/
theorem misreads_letter {rest : List UInt8} (plain : terminator ∉ rest) :
    Stage.Misreads .init (0x41 :: rest)
      (.decode (rest.length + 1) (Text.lossy (0x41 :: rest))) := by
  have whole : frameBody (0x41 :: rest) = 0x41 :: rest := by
    apply frameBody_plain
    simpa [terminator] using plain
  obtain ⟨more, text⟩ := Text.lossy_plain (show (0x41 : UInt8) < 0x80 by decide) rest
  have unmarked : errorMark.toList.isPrefixOf (Text.lossy (0x41 :: rest)).toList = false := by
    rw [text]
    rfl
  have unread : (Message.read? (0x41 :: rest) : Option VersionReply) = none := rfl
  change (decode (0x41 :: rest) : Except ProtocolError VersionReply) = _
  simp [decode, whole, unmarked, unread]

end Negotiation

end QueryDriver.Handshake
