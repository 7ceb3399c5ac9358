import QueryDriver.Proofs.Handshake.Progress

/-!
When a handshake succeeds: just when the server sends three frames that agree on the version, go on
with an acceptable server-first text and prove that the server knows the password. What comes behind
them is not looked at and left unread.
-/

namespace QueryDriver.Handshake

/-- A stream that begins with the three frames of a server that knows the password. -/
def Convincing (functions : Hash.Functions) (username password nonce : String)
    (stream : List UInt8) : Prop :=
  ∃ versionFrame firstFrame finalFrame behind reply serverFirst first serverFinal,
    stream = versionFrame ++ firstFrame ++ finalFrame ++ behind ∧
    AgreesOnVersion versionFrame reply ∧
    GoesOnWith firstFrame serverFirst ∧
    Scram.ServerFirst.read nonce serverFirst = .ok first ∧
    GoesOnWith finalFrame serverFinal ∧
    Proves serverFinal (serverSignature functions username password nonce serverFirst first)

namespace Negotiation

variable {functions : Hash.Functions} {username password nonce serverFirst : String}
variable {first : Scram.ServerFirst} {version : Option String}
variable {frame rest : List UInt8} {sent : List ByteArray}

theorem move_frame {attempt next : Attempt} {body : List UInt8}
    (silent : attempt.outgoing functions = .ok none) (frame : IsFrame (body ++ [terminator]))
    (accepted : attempt.acceptReply functions body = .ok next) :
    (⟨attempt, body ++ [terminator] ++ rest, sent, none, none⟩ : Negotiation).move functions =
      ⟨next, rest, sent, none, if next.stage = .authenticated then some (.ok ()) else none⟩ := by
  have found := nextFrame_eq_found_iff.mpr ⟨frame, (rfl : _ = body ++ [terminator] ++ rest)⟩
  rw [move_reading rfl silent]
  simp only [read, found, accepted, proceed]

theorem move_message {attempt next : Attempt} {unread : List UInt8} {message : ByteArray}
    (sends : attempt.outgoing functions = .ok (some (message, next))) :
    (⟨attempt, unread, sent, none, none⟩ : Negotiation).move functions =
      ⟨next, unread, sent ++ [message], none, none⟩ :=
  move_writing rfl sends

theorem move_version {exchange : Scram.Client} {reply : VersionReply}
    (agreed : AgreesOnVersion frame reply) :
    (⟨⟨.init, exchange, version⟩, frame ++ rest, sent, none, none⟩ : Negotiation).move functions =
      ⟨⟨.versionChecked, exchange, reply.serverVersion⟩, rest, sent, none, none⟩ := by
  obtain ⟨_, body, rfl, _⟩ := agreed.1
  exact move_frame rfl agreed.1 ((accepts_version agreed.1).mpr ⟨reply, agreed, rfl⟩)

theorem move_serverFirst (given : GoesOnWith frame serverFirst)
    (reads : Scram.ServerFirst.read nonce serverFirst = .ok first) :
    (⟨⟨.clientFirstSent, .new username password nonce, version⟩, frame ++ rest, sent, none,
        none⟩ : Negotiation).move functions =
      ⟨⟨.serverFirstReceived, challenged username password nonce serverFirst first, version⟩,
        rest, sent, none, none⟩ := by
  obtain ⟨_, body, rfl, _⟩ := given.1
  exact move_frame rfl given.1
    ((accepts_serverFirst given.1).mpr ⟨serverFirst, first, given, reads, rfl⟩)

theorem move_serverFinal {text : String} (given : GoesOnWith frame text)
    (signed : Proves text
      (serverSignature functions username password nonce serverFirst first)) :
    (⟨⟨.clientFinalSent, proved functions username password nonce serverFirst first, version⟩,
        frame ++ rest, sent, none, none⟩ : Negotiation).move functions =
      ⟨⟨.authenticated, proved functions username password nonce serverFirst first, version⟩,
        rest, sent, none, some (.ok ())⟩ := by
  obtain ⟨_, body, rfl, _⟩ := given.1
  exact move_frame rfl given.1 ((accepts_serverFinal given.1).mpr ⟨text, given, signed, rfl⟩)

theorem settle_eq (negotiation : Negotiation) :
    negotiation.settle functions =
      ((((negotiation.move functions).move functions).move functions).move functions).move
        functions :=
  rfl

/-- Four moves lead to the stage at which the password is proved, and the last one from there. -/
theorem settle_challenged {versionFrame firstFrame : List UInt8} {reply : VersionReply}
    (behind : List UInt8) (sent : List ByteArray)
    (agreed : AgreesOnVersion versionFrame reply)
    (given : GoesOnWith firstFrame serverFirst)
    (reads : Scram.ServerFirst.read nonce serverFirst = .ok first) :
    (⟨.new username password nonce, versionFrame ++ (firstFrame ++ behind), sent, none,
        none⟩ : Negotiation).settle functions =
      (⟨⟨.clientFinalSent, proved functions username password nonce serverFirst first,
          reply.serverVersion⟩, behind,
        sent ++ [clientFirst username nonce] ++
          [clientFinal functions username password nonce serverFirst first],
        none, none⟩ : Negotiation).move functions := by
  rw [settle_eq, Attempt.new, move_version agreed, move_message outgoing_clientFirst,
    move_serverFirst given reads, move_message outgoing_clientFinal]

/-- Five moves lead from the first stage to the last, and what is behind is left unread. -/
theorem settle_convincing {versionFrame firstFrame finalFrame : List UInt8}
    {reply : VersionReply} {serverFinal : String} (behind : List UInt8) (sent : List ByteArray)
    (agreed : AgreesOnVersion versionFrame reply)
    (given : GoesOnWith firstFrame serverFirst)
    (reads : Scram.ServerFirst.read nonce serverFirst = .ok first)
    (last : GoesOnWith finalFrame serverFinal)
    (signed : Proves serverFinal
      (serverSignature functions username password nonce serverFirst first)) :
    (⟨.new username password nonce, versionFrame ++ (firstFrame ++ (finalFrame ++ behind)), sent,
        none, none⟩ : Negotiation).settle functions =
      ⟨⟨.authenticated, proved functions username password nonce serverFirst first,
          reply.serverVersion⟩, behind,
        sent ++ [clientFirst username nonce] ++
          [clientFinal functions username password nonce serverFirst first],
        none, some (.ok ())⟩ := by
  rw [settle_challenged _ sent agreed given reads, move_serverFinal last signed]

theorem arrive_start (username password nonce : String) (stream : List UInt8) :
    (start (.new username password nonce)).arrive stream =
      ⟨.new username password nonce, stream, [openingBytes], none, none⟩ :=
  rfl

theorem receive_convincing {stream : List UInt8}
    (convincing : Convincing functions username password nonce stream) :
    let heard := (start (.new username password nonce)).receive functions stream
    heard.result = some (.ok ()) ∧ heard.attempt.stage = .authenticated := by
  obtain ⟨versionFrame, firstFrame, finalFrame, behind, reply, serverFirst, first, serverFinal,
    rfl, agreed, given, reads, last, signed⟩ := convincing
  intro heard
  have settled := settle_convincing behind [openingBytes] agreed given reads last signed
  rw [← List.append_assoc, ← List.append_assoc, ← arrive_start] at settled
  have same : heard = _ := settled
  rw [same]
  exact ⟨rfl, rfl⟩

theorem convincing_of_fares {received : List UInt8} {negotiation : Negotiation}
    (fares : Fares functions username password nonce received negotiation)
    (succeeded : negotiation.result = some (.ok ())) :
    Convincing functions username password nonce received := by
  cases fares with
  | going result _ _ =>
      rw [succeeded] at result
      cases result
  | failed result _ _ =>
      rw [succeeded] at result
      cases result
  | succeeded _ stage progress =>
      obtain ⟨reply, serverFirst, first, read⟩ := progress.serverFinal stage
      obtain ⟨finalFrame, serverFinal, before, last, signed⟩ := read
      obtain ⟨firstFrame, earlier, given, reads⟩ := before
      obtain ⟨versionFrame, same, agreed⟩ := earlier
      refine ⟨versionFrame, firstFrame, finalFrame, negotiation.unread, reply, serverFirst, first,
        serverFinal, ?_, agreed, given, reads, last, signed⟩
      rw [same, List.append_assoc, List.append_assoc]

theorem succeeded_of_endOfStream {negotiation : Negotiation}
    (succeeded : negotiation.endOfStream.result = some (.ok ())) :
    negotiation.result = some (.ok ()) := by
  cases result : negotiation.result with
  | none =>
      simp only [endOfStream, result] at succeeded
      cases succeeded
  | some outcome =>
      rw [endOfStream_of_over result, result] at succeeded
      exact succeeded

/-- A handshake succeeds just when the stream of the server is convincing, in whatever chunks it
comes, and whether or not the server closes behind it. -/
theorem succeeds_iff_convincing (functions : Hash.Functions) (username password nonce : String)
    (chunks : List (List UInt8)) :
    let attempt := Attempt.new username password nonce
    let heard := chunks.foldl (receive functions) (start attempt)
    let ended := run functions attempt chunks
    let convincing := Convincing functions username password nonce chunks.flatten
    (heard.result = some (.ok ()) ∧ heard.attempt.stage = .authenticated ↔ convincing) ∧
      (ended.result = some (.ok ()) ∧ ended.attempt.stage = .authenticated ↔ convincing) := by
  intro attempt heard ended convincing
  have whole : heard = (start attempt).receive functions chunks.flatten :=
    foldl_receive_start functions attempt chunks
  have fares : Fares functions username password nonce chunks.flatten heard := by
    rw [whole]
    exact (Fares.start.arrive chunks.flatten).settle
  have successful (agreed : convincing) :
      heard.result = some (.ok ()) ∧ heard.attempt.stage = .authenticated := by
    rw [whole]
    exact receive_convincing agreed
  refine ⟨⟨fun both => convincing_of_fares fares both.1, successful⟩, ?_, ?_⟩
  · rintro ⟨succeeded, _⟩
    exact convincing_of_fares fares (succeeded_of_endOfStream succeeded)
  · intro agreed
    have succeeded := successful agreed
    rw [show ended = heard from endOfStream_of_over succeeded.1]
    exact succeeded

/-- Functions whose results tell only how long what they are given is. -/
def measuring : Hash.Functions :=
  { hash := fun bytes => [UInt8.ofNat bytes.length]
    keyed := fun key bytes => [UInt8.ofNat key.length, UInt8.ofNat bytes.length]
    derive := fun password salt iterations =>
      [UInt8.ofNat password.length, UInt8.ofNat salt.length, UInt8.ofNat iterations] }

/-- The three frames come byte by byte, and the first bytes of the session behind them. -/
theorem succeeds_iff_convincing_bytewise :
    let version := (encode (VersionReply.accept 0 1 "2.4")).data.toList
    let serverFirst := (encode (AuthReply.accept "r=abcd,s=AA==,i=7")).data.toList
    let serverFinal := (encode (AuthReply.accept "v=Ai0=")).data.toList
    let stream := version ++ serverFirst ++ serverFinal ++ [7, 0]
    let ended := run measuring (.new "a,b" "pencil" "abc") (stream.map fun byte => [byte])
    ended.result = some (.ok ()) ∧ ended.attempt.stage = .authenticated := by
  intro version serverFirst serverFinal stream
  have whole : (stream.map fun byte => [byte]).flatten = stream := by
    rw [← List.flatMap_def, List.flatMap_singleton']
  have agreed : AgreesOnVersion version (VersionReply.accept 0 1 "2.4") :=
    ⟨by decide +kernel, ok_of_toOption (by decide +kernel), rfl, by decide, by decide⟩
  have given : GoesOnWith serverFirst "r=abcd,s=AA==,i=7" :=
    ⟨by decide +kernel, .accept "r=abcd,s=AA==,i=7", ok_of_toOption (by decide +kernel), rfl, rfl⟩
  have last : GoesOnWith serverFinal "v=Ai0=" :=
    ⟨by decide +kernel, .accept "v=Ai0=", ok_of_toOption (by decide +kernel), rfl, rfl⟩
  have reads : Scram.ServerFirst.read "abc" "r=abcd,s=AA==,i=7" = .ok ⟨"abcd", [0], 7⟩ :=
    ok_of_toOption (by decide +kernel)
  have signed : Proves "v=Ai0=" (serverSignature measuring "a,b" "pencil" "abc"
      "r=abcd,s=AA==,i=7" ⟨"abcd", [0], 7⟩) :=
    ⟨[⟨'v', some "Ai0="⟩], ok_of_toOption (by decide +kernel), by decide +kernel⟩
  have convincing : Convincing measuring "a,b" "pencil" "abc"
      (stream.map fun byte => [byte]).flatten :=
    ⟨version, serverFirst, serverFinal, [7, 0], _, _, _, _, whole, agreed, given, reads, last,
      signed⟩
  clear whole
  clear_value stream
  exact (succeeds_iff_convincing measuring "a,b" "pencil" "abc"
    (stream.map fun byte => [byte])).2.mpr convincing

end Negotiation

end QueryDriver.Handshake
