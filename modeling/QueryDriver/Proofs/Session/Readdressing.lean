import Mathlib.Data.List.Basic
import QueryDriver.Proofs.Frame.Readdressing
import QueryDriver.Proofs.Session.Requests

/-!
Requests under other tokens. Where no two requests come to share a token, each fares under its other
token as it did under its own.
-/

namespace QueryDriver

/-- Two frames on the connection that differ in their tokens only. -/
def Frame.Rewired (change : UInt64 → UInt64) (first second : ByteArray) : Prop :=
  ∃ frame : Frame, first = frame.wire ∧ second = (frame.readdress change).wire

def Occurrence.readdress (change : UInt64 → UInt64) : Occurrence → Occurrence
  | .arrived frame => .arrived (frame.readdress change)
  | .expired token => .expired (change token)
  | .abandoned token => .abandoned (change token)
  | .closing cause => .closing cause

/-- The notice with the other token; frames that are written are left as they are. -/
def Notice.readdress (change : UInt64 → UInt64) : Notice → Notice
  | .registered token => .registered (change token)
  | .ended token outcome => .ended (change token) outcome
  | .abandoned token => .abandoned (change token)
  | .unsent token => .unsent (change token)
  | notice => notice

variable {change : UInt64 → UInt64}

theorem endings_readdress (injective : Function.Injective change) (token : UInt64)
    (notices : List Notice) :
    endings (change token) (notices.map (Notice.readdress change)) = endings token notices := by
  rw [endings, List.filterMap_map]
  apply List.filterMap_congr
  intro notice _
  cases notice <;>
    simp [Notice.readdress, Notice.ending?, Function.comp_apply, injective.eq_iff]

theorem registrations_readdress (notices : List Notice) :
    registrations (notices.map (Notice.readdress change)) =
      (registrations notices).map change := by
  rw [registrations, registrations, List.filterMap_map, List.map_filterMap]
  apply List.filterMap_congr
  intro notice _
  cases notice <;> rfl

theorem writes_readdress (notices : List Notice) :
    writes (notices.map (Notice.readdress change)) = writes notices := by
  rw [writes, writes, List.filterMap_map]
  apply List.filterMap_congr
  intro notice _
  cases notice <;> rfl

theorem unsents_readdress (notices : List Notice) :
    unsents (notices.map (Notice.readdress change)) = (unsents notices).map change := by
  rw [unsents, unsents, List.filterMap_map, List.map_filterMap]
  apply List.filterMap_congr
  intro notice _
  cases notice <;> rfl

namespace Requests

/-- The requests under other tokens, with another token to be given out next. -/
def readdress (change : UInt64 → UInt64) (next : UInt64) (requests : Requests) : Requests :=
  { nextToken := next
    pending := requests.pending.map change
    waiting := requests.waiting.map change
    closed := requests.closed }

variable (injective : Function.Injective change) (next : UInt64)

include injective in
theorem forget_readdress (requests : Requests) (token : UInt64) :
    (requests.readdress change next).forget (change token) =
      (requests.forget token).readdress change next := by
  simp [forget, readdress, List.filter_map, Function.comp_def, injective.eq_iff]

include injective in
theorem leave_readdress (requests : Requests) (token : UInt64) :
    (requests.readdress change next).leave (change token) =
      (requests.leave token).readdress change next := by
  simp [leave, forget, readdress, List.filter_map, Function.comp_def, injective.eq_iff]

include injective in
theorem finish_readdress (requests : Requests) (token : UInt64)
    (outcome : Except ClientError ByteArray) :
    (requests.readdress change next).finish (change token) outcome =
      ((requests.finish token outcome).1.readdress change next,
        (requests.finish token outcome).2.map (Notice.readdress change)) := by
  have waits : change token ∈ (requests.readdress change next).waiting ↔
      token ∈ requests.waiting := List.mem_map_of_injective injective
  by_cases member : token ∈ requests.waiting
  · rw [finish, if_pos (waits.mpr member), finish, if_pos member,
      leave_readdress injective next]
    rfl
  · rw [finish, if_neg (mt waits.mp member), finish, if_neg member]
    rfl

include injective in
theorem failAll_readdress (requests : Requests) (error : ClientError) (tokens : List UInt64) :
    (requests.readdress change next).failAll error (tokens.map change) =
      ((requests.failAll error tokens).1.readdress change next,
        (requests.failAll error tokens).2.map (Notice.readdress change)) := by
  induction tokens generalizing requests with
  | nil => rfl
  | cons token rest ih =>
      rw [List.map_cons, failAll_cons, failAll_cons, finish_readdress injective next, ih,
        List.map_append]

include injective in
/-- Under other tokens an occurrence does what it does. -/
theorem react_readdress (requests : Requests) (occurrence : Occurrence) :
    (requests.readdress change next).react (occurrence.readdress change) =
      ((requests.react occurrence).1.readdress change next,
        (requests.react occurrence).2.map (Notice.readdress change)) := by
  cases occurrence with
  | arrived frame =>
      have expected : change frame.token ∈ (requests.readdress change next).pending ↔
          frame.token ∈ requests.pending := List.mem_map_of_injective injective
      simp only [Occurrence.readdress, Frame.readdress, react, complete]
      by_cases member : frame.token ∈ requests.pending
      · rw [if_pos (expected.mpr member), if_pos member, forget_readdress injective next,
          finish_readdress injective next]
      · rw [if_neg (mt expected.mp member), if_neg member]
        rfl
  | expired token => exact finish_readdress injective next requests token _
  | abandoned token =>
      have waits : change token ∈ (requests.readdress change next).waiting ↔
          token ∈ requests.waiting := List.mem_map_of_injective injective
      simp only [Occurrence.readdress, react, abandon]
      by_cases member : token ∈ requests.waiting
      · rw [if_pos (waits.mpr member), if_pos member, leave_readdress injective next]
        rfl
      · rw [if_neg (mt waits.mp member), if_neg member]
        rfl
  | closing cause =>
      simp only [Occurrence.readdress, react, closeWith]
      by_cases isClosed : requests.closed = true
      · have closed : (requests.readdress change next).closed = true := isClosed
        rw [if_pos isClosed, if_pos closed]
        rfl
      · have notClosed : ¬(requests.readdress change next).closed = true := isClosed
        rw [if_neg isClosed, if_neg notClosed]
        exact failAll_readdress injective next
          { requests with pending := [], closed := true } cause requests.pending

include injective in
theorem reactAll_readdress (requests : Requests) (occurrences : List Occurrence) :
    (requests.readdress change next).reactAll (occurrences.map (Occurrence.readdress change)) =
      ((requests.reactAll occurrences).1.readdress change next,
        (requests.reactAll occurrences).2.map (Notice.readdress change)) := by
  induction occurrences generalizing requests with
  | nil => rfl
  | cons occurrence rest ih =>
      rw [List.map_cons, reactAll_cons, reactAll_cons, react_readdress injective next, ih,
        List.map_append]

theorem register_readdress {requests : Requests}
    (numbered : change requests.nextToken = next) :
    (requests.readdress change next).register =
      requests.register.readdress change (next + 1) := by
  simp [register, readdress, numbered]

theorem Sound.readdress {requests : Requests} (sound : Sound requests) :
    Sound (requests.readdress change next) := by
  constructor
  · simp [Requests.readdress, sound.expected]
  · intro isClosed
    simp [Requests.readdress, sound.closed isClosed]

end Requests

end QueryDriver
