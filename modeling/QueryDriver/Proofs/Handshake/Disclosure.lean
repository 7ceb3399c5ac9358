import QueryDriver.Proofs.Handshake.Progress

/-!
What a handshake reveals, and to whom. Whatever happens to it, it has sent no more than the frames
it has accepted allow, its stages come in one order, and it ends for good.
-/

namespace QueryDriver.Handshake

/-- The smallest things that can happen to a handshake. -/
inductive Incident
  | arrive (chunk : List UInt8)
  | move
  | refuseWrites (reason : String)
  | endOfStream

def Incident.bytes : Incident → List UInt8
  | .arrive chunk => chunk
  | _ => []

def arrived (incidents : List Incident) : List UInt8 :=
  incidents.flatMap Incident.bytes

/-- A server that sends chunks, each followed by as many moves as there can be, and closes. -/
def schedule (chunks : List (List UInt8)) : List Incident :=
  chunks.flatMap (fun chunk => .arrive chunk :: List.replicate Negotiation.moveCount .move) ++
    [.endOfStream]

/-- The messages that the received bytes allow: the password is proved only to a server whose nonce
begins with that of the client. -/
inductive Revealed (functions : Hash.Functions) (username password nonce : String)
    (received : List UInt8) : List ByteArray → Prop
  | opening : Revealed functions username password nonce received [openingBytes]
  | clientFirst {versionFrame behind : List UInt8} {reply : VersionReply}
      (begins : received = versionFrame ++ behind)
      (agreed : AgreesOnVersion versionFrame reply) :
      Revealed functions username password nonce received
        [openingBytes, clientFirst username nonce]
  | clientFinal {versionFrame firstFrame behind : List UInt8} {reply : VersionReply}
      {serverFirst : String} {first : Scram.ServerFirst}
      (begins : received = versionFrame ++ firstFrame ++ behind)
      (agreed : AgreesOnVersion versionFrame reply)
      (given : GoesOnWith firstFrame serverFirst)
      (reads : Scram.ServerFirst.read nonce serverFirst = .ok first)
      (continues : nonce.toList <+: first.nonce.toList) :
      Revealed functions username password nonce received
        [openingBytes, clientFirst username nonce,
          clientFinal functions username password nonce serverFirst first]

/-- A stage stays, leads to the next one, or gives up before the last. -/
inductive Stage.Follows : Stage → Stage → Prop
  | stays {stage : Stage} : Follows stage stage
  | leads {before after : Stage} : Leads before after → Follows before after
  | fails {before : Stage} : before ≠ .authenticated → Follows before .failed

namespace Negotiation

def undergo (functions : Hash.Functions) (negotiation : Negotiation) : Incident → Negotiation
  | .arrive chunk => negotiation.arrive chunk
  | .move => negotiation.move functions
  | .refuseWrites reason => negotiation.refuseWrites reason
  | .endOfStream => negotiation.endOfStream

theorem foldl_moves (functions : Hash.Functions) (negotiation : Negotiation) (count : Nat) :
    (List.replicate count Incident.move).foldl (undergo functions) negotiation =
      Nat.repeat (move functions) count negotiation := by
  induction count generalizing negotiation with
  | zero => rfl
  | succ count ih =>
      rw [repeat_succ_inside]
      exact ih (negotiation.move functions)

theorem foldl_chunks (functions : Hash.Functions) (negotiation : Negotiation)
    (chunks : List (List UInt8)) :
    (chunks.flatMap fun chunk => Incident.arrive chunk :: List.replicate moveCount .move).foldl
        (undergo functions) negotiation =
      chunks.foldl (receive functions) negotiation := by
  induction chunks generalizing negotiation with
  | nil => rfl
  | cons chunk rest ih =>
      rw [List.flatMap_cons, List.foldl_append, ih, List.foldl_cons, foldl_moves, List.foldl_cons]
      rfl

theorem run_eq_undergo (functions : Hash.Functions) (attempt : Attempt)
    (chunks : List (List UInt8)) :
    run functions attempt chunks = (schedule chunks).foldl (undergo functions) (start attempt) := by
  rw [schedule, List.foldl_append, foldl_chunks]
  rfl

theorem sent_undergo (functions : Hash.Functions) (negotiation : Negotiation)
    (incident : Incident) :
    negotiation.sent <+: (negotiation.undergo functions incident).sent := by
  cases incident with
  | arrive chunk => exact List.prefix_rfl
  | refuseWrites reason => exact List.prefix_rfl
  | endOfStream =>
      rw [undergo, endOfStream]
      split <;> exact List.prefix_rfl
  | move =>
      rw [undergo]
      have moved := moved functions negotiation
      generalize negotiation.move functions = after at moved
      cases moved with
      | sends => exact List.prefix_append _ _
      | _ => exact List.prefix_rfl

theorem undergo_of_over {functions : Hash.Functions} {negotiation : Negotiation}
    {outcome : Except ClientError Unit} (isOver : negotiation.result = some outcome)
    (incident : Incident) :
    let after := negotiation.undergo functions incident
    after.result = some outcome ∧ after.attempt = negotiation.attempt ∧
      after.sent = negotiation.sent ∧ after.unread = negotiation.unread ++ incident.bytes := by
  intro after
  have silent (bytes : incident.bytes = []) (same : after = negotiation) :
      after.result = some outcome ∧ after.attempt = negotiation.attempt ∧
        after.sent = negotiation.sent ∧ after.unread = negotiation.unread ++ incident.bytes := by
    rw [same, bytes, List.append_nil]
    exact ⟨isOver, rfl, rfl, rfl⟩
  cases incident with
  | arrive chunk => exact ⟨isOver, rfl, rfl, rfl⟩
  | refuseWrites reason => exact ⟨isOver, rfl, rfl, (List.append_nil _).symm⟩
  | move => exact silent rfl (move_of_over isOver)
  | endOfStream => exact silent rfl (endOfStream_of_over isOver)

/-- A handshake that is over reads nothing and writes nothing any more. -/
theorem foldl_of_over {functions : Hash.Functions} {negotiation : Negotiation}
    {outcome : Except ClientError Unit} (isOver : negotiation.result = some outcome)
    (incidents : List Incident) :
    let after := incidents.foldl (undergo functions) negotiation
    after.result = some outcome ∧ after.attempt = negotiation.attempt ∧
      after.sent = negotiation.sent ∧ after.unread = negotiation.unread ++ arrived incidents := by
  induction incidents generalizing negotiation with
  | nil => exact ⟨isOver, rfl, rfl, (List.append_nil _).symm⟩
  | cons incident rest ih =>
      obtain ⟨stillOver, sameAttempt, sameSent, moreUnread⟩ :=
        undergo_of_over isOver incident
      obtain ⟨result, attempt, sent, unread⟩ := ih stillOver
      refine ⟨result, attempt.trans sameAttempt, sent.trans sameSent, ?_⟩
      rw [List.foldl_cons, unread, moreUnread, List.append_assoc]
      rfl

theorem start_again (functions : Hash.Functions) {attempt : Attempt}
    (started : attempt.stage ≠ .init) (later : List Incident) :
    let again := later.foldl (undergo functions) (start attempt)
    again.result =
        some (.error (.protocol (.invalidMessage (.handshakeState attempt.stage.label)))) ∧
      again.attempt = attempt ∧ again.sent = [] ∧ again.unread = arrived later := by
  have refused : start attempt =
      ⟨attempt, [], [], none, some (.error (.protocol attempt.stageError))⟩ := if_neg started
  rw [refused]
  exact foldl_of_over rfl later

end Negotiation

section Faring

variable {functions : Hash.Functions} {username password nonce : String}
variable {received : List UInt8} {negotiation : Negotiation}

theorem Progress.revealed {attempt : Attempt} {unread : List UInt8} {sent : List ByteArray}
    (progress : Progress functions username password nonce received attempt unread sent) :
    Revealed functions username password nonce received sent := by
  have answered {unread : List UInt8} {reply : VersionReply}
      (read : VersionRead received unread reply) :
      Revealed functions username password nonce received
        [openingBytes, clientFirst username nonce] := by
    obtain ⟨versionFrame, begins, agreed⟩ := read
    exact .clientFirst begins agreed
  have trusted {unread : List UInt8} {reply : VersionReply} {serverFirst : String}
      {first : Scram.ServerFirst}
      (read : ServerFirstRead nonce received unread reply serverFirst first) :
      Revealed functions username password nonce received
        [openingBytes, clientFirst username nonce,
          clientFinal functions username password nonce serverFirst first] := by
    obtain ⟨firstFrame, ⟨versionFrame, begins, agreed⟩, given, reads⟩ := read
    rw [← List.append_assoc] at begins
    exact .clientFinal begins agreed given reads (Scram.read_nonce reads)
  cases progress with
  | opened => exact .opening
  | checked read => exact .opening
  | asked read => exact answered read
  | challenged read =>
      obtain ⟨_, before, _⟩ := read
      exact answered before
  | proved read => exact trusted read
  | authenticated read =>
      obtain ⟨_, _, before, _⟩ := read
      exact trusted before

theorem Progress.stage_ne_failed {attempt : Attempt} {unread : List UInt8}
    {sent : List ByteArray}
    (progress : Progress functions username password nonce received attempt unread sent) :
    attempt.stage ≠ .failed := by
  cases progress <;> exact Stage.noConfusion

namespace Fares

theorem revealed (fares : Fares functions username password nonce received negotiation) :
    Revealed functions username password nonce received negotiation.sent := by
  cases fares with
  | going _ _ progress => exact progress.revealed
  | succeeded _ _ progress => exact progress.revealed
  | failed _ _ progress => exact progress.revealed

theorem undergo (fares : Fares functions username password nonce received negotiation)
    (incident : Incident) :
    Fares functions username password nonce (received ++ incident.bytes)
      (negotiation.undergo functions incident) := by
  have silent {after : Negotiation} (bytes : incident.bytes = [])
      (unheard : Fares functions username password nonce received after) :
      Fares functions username password nonce (received ++ incident.bytes) after := by
    rw [bytes, List.append_nil]
    exact unheard
  cases incident with
  | arrive chunk => exact fares.arrive chunk
  | move => exact silent rfl fares.move
  | refuseWrites reason => exact silent rfl (fares.refuseWrites reason)
  | endOfStream => exact silent rfl fares.endOfStream

theorem foldl (fares : Fares functions username password nonce received negotiation)
    (incidents : List Incident) :
    Fares functions username password nonce (received ++ arrived incidents)
      (incidents.foldl (Negotiation.undergo functions) negotiation) := by
  induction incidents generalizing received negotiation with
  | nil =>
      rw [arrived, List.flatMap_nil, List.append_nil]
      exact fares
  | cons incident rest ih =>
      rw [arrived, List.flatMap_cons, ← List.append_assoc]
      exact ih (fares.undergo incident)

theorem succeeded_iff (fares : Fares functions username password nonce received negotiation) :
    negotiation.result = some (.ok ()) ↔ negotiation.attempt.stage = .authenticated := by
  cases fares with
  | going result stage _ => simp [result, stage]
  | succeeded result stage _ => simp [result, stage]
  | failed result stage _ => simp [result, stage]

theorem failed_iff (fares : Fares functions username password nonce received negotiation) :
    (∃ error, negotiation.result = some (.error error)) ↔
      negotiation.attempt.stage = .failed := by
  cases fares with
  | going result _ progress => simp [result, progress.stage_ne_failed]
  | succeeded result stage _ => simp [result, stage]
  | failed result stage _ => simp [result, stage]

theorem follows (fares : Fares functions username password nonce received negotiation)
    (incident : Incident) :
    negotiation.attempt.stage.Follows (negotiation.undergo functions incident).attempt.stage := by
  cases isOver : negotiation.result with
  | some outcome =>
      rw [(Negotiation.undergo_of_over isOver incident).2.1]
      exact .stays
  | none =>
      have unfinished : negotiation.attempt.stage ≠ .authenticated := by
        intro last
        have succeeded := fares.succeeded_iff.mpr last
        rw [isOver] at succeeded
        cases succeeded
      cases incident with
      | arrive chunk => exact .stays
      | refuseWrites reason => exact .stays
      | endOfStream =>
          rw [Negotiation.undergo, Negotiation.endOfStream, isOver]
          exact .fails unfinished
      | move =>
          rw [Negotiation.undergo]
          have moved := Negotiation.moved functions negotiation
          generalize negotiation.move functions = after at moved
          cases moved with
          | rests => exact .stays
          | fails _ _ error => exact .fails unfinished
          | sends _ sends => exact .leads (Attempt.outgoing_leads sends).1
          | reads _ _ _ accepted => exact .leads (Attempt.acceptReply_leads accepted)

end Fares

end Faring

namespace Negotiation

/-- Whatever happens to a handshake, up to any point: it has sent no more than it may, its stages
come in order, its result says how they ended, and it is not begun again. -/
theorem reveals_only_when_answered (functions : Hash.Functions)
    (username password nonce : String) :
    let begun := start (.new username password nonce)
    begun.attempt.stage = .init ∧
    (∀ chunks, run functions (.new username password nonce) chunks =
      (schedule chunks).foldl (undergo functions) begun) ∧
    ∀ incidents : List Incident,
      let reached := incidents.foldl (undergo functions) begun
      Revealed functions username password nonce (arrived incidents) reached.sent ∧
      (∀ incident,
        reached.sent <+: (reached.undergo functions incident).sent ∧
        reached.attempt.stage.Follows (reached.undergo functions incident).attempt.stage) ∧
      (reached.result = some (.ok ()) ↔ reached.attempt.stage = .authenticated) ∧
      ((∃ error, reached.result = some (.error error)) ↔ reached.attempt.stage = .failed) ∧
      reached.endOfStream.result ≠ none ∧
      (reached.attempt.stage ≠ .init → ∀ later : List Incident,
        let again := later.foldl (undergo functions) (start reached.attempt)
        again.result =
            some (.error (.protocol
              (.invalidMessage (.handshakeState reached.attempt.stage.label)))) ∧
          again.attempt = reached.attempt ∧ again.sent = [] ∧ again.unread = arrived later) := by
  intro begun
  refine ⟨rfl, fun chunks => run_eq_undergo functions _ chunks, ?_⟩
  intro incidents reached
  have fares : Fares functions username password nonce (arrived incidents) reached :=
    Fares.start.foldl incidents
  refine ⟨fares.revealed, ?_, fares.succeeded_iff, fares.failed_iff, over_endOfStream reached, ?_⟩
  · intro incident
    exact ⟨sent_undergo functions reached incident, fares.follows incident⟩
  · exact fun started later => start_again functions started later

/-- A server that refuses the client learns no proof of the password and hears nothing more. -/
theorem reveals_only_when_answered_refused :
    let functions : Hash.Functions :=
      { hash := id, keyed := fun key _ => key, derive := fun password _ _ => password }
    let version := (encode (VersionReply.accept 0 0 "2.4")).data.toList
    let refusal := errorMark.toUTF8.data.toList ++ [terminator]
    let incidents := [.arrive version, .move, .move, .arrive refusal, .move]
    let reached := incidents.foldl (undergo functions) (start (.new "user" "pencil" "abc"))
    let again := [.arrive version, .move].foldl (undergo functions) (start reached.attempt)
    reached.sent = [openingBytes, clientFirst "user" "abc"] ∧ reached.attempt.stage = .failed ∧
      again.sent = [] ∧ again.unread = version := by
  intro functions version refusal incidents
  have outcome :
      let reached := incidents.foldl (undergo functions) (start (.new "user" "pencil" "abc"))
      reached.sent = [openingBytes, clientFirst "user" "abc"] ∧
        reached.attempt.stage = .failed := by decide +kernel
  have told := (reveals_only_when_answered functions "user" "pencil" "abc").2.2 incidents
  clear_value incidents
  intro reached
  have started : reached.attempt.stage ≠ .init := by
    rw [outcome.2]
    exact Stage.noConfusion
  have bytes : arrived [.arrive version, .move] = version := List.append_nil version
  obtain ⟨_, _, silent, unread⟩ := told.2.2.2.2.2 started [.arrive version, .move]
  exact ⟨outcome.1, outcome.2, silent, unread.trans bytes⟩

end Negotiation

end QueryDriver.Handshake
