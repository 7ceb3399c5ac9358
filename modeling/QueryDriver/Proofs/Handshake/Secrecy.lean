import QueryDriver.Proofs.Handshake.Framing
import QueryDriver.Proofs.Handshake.Success
import QueryDriver.Proofs.Scram.Agreement

/-!
Where the password shows. Two handshakes that differ in their passwords alone, and read the same
bytes, do the same until they have read an acceptable server-first text. Behind it they differ in
the proof that they send and in the signature that they expect.
-/

namespace QueryDriver.Handshake

section Frame

/-- The text of a frame that carries an authentication text, in front of that and behind it. -/
def requestStart : List Char :=
  "\x7b\"authentication\":\"".toList

def requestEnd : List Char :=
  ['"', '\x7d', '\x00']

theorem encode_authRequest (text : String) :
    (encode (⟨text⟩ : AuthRequest)).data.toList =
      Text.utf8 (requestStart ++ text.toList.flatMap Json.Quoted.escape ++ requestEnd) := by
  have fields : (LawfulMessage.fields (⟨text⟩ : AuthRequest)).toJson =
      .object [("authentication", .string text)] := rfl
  have start : '\x7b' :: Json.Quoted.chars "authentication" ++ [':', '"'] = requestStart := by
    decide +kernel
  have written : Json.chars (.object [("authentication", .string text)]) =
      requestStart ++ text.toList.flatMap Json.Quoted.escape ++ ['"', '\x7d'] := by
    rw [Json.chars_field, ← start, Json.Quoted.chars.eq_1 text]
    simp
  have whole : requestEnd = ['"', '\x7d'] ++ ['\x00'] := rfl
  have last : Text.utf8 ['\x00'] = [terminator] := rfl
  rw [encode_eq, fields, Json.bytes_eq, written, whole, ← List.append_assoc,
    Text.utf8_append _ ['\x00'], last]

theorem escape_encodeChars (proof : Hash.Bytes) :
    (Base64.encodeChars proof).flatMap Json.Quoted.escape = Base64.encodeChars proof := by
  have plain : ∀ code ∈ Base64.encodeChars proof, Json.Quoted.escape code = [code] :=
    Base64.forall_mem_encodeChars (by decide) (by decide) proof
  rw [List.flatMap_congr plain, List.flatMap_singleton']

theorem length_bytes_encode (proof : Hash.Bytes) :
    (Text.bytes (Base64.encode proof)).length = (proof.length + 2) / 3 * 4 := by
  have plain : ∀ code ∈ Base64.encodeChars proof, code.toNat < 0x80 :=
    Base64.forall_mem_encodeChars (by decide) (by decide) proof
  rw [Base64.encode, Text.bytes_ofList, Text.utf8_plain plain, List.length_map,
    Base64.length_encodeChars]

/-- The frame of a proof, up to the proof. -/
def proofStart (serverNonce : String) : List UInt8 :=
  Text.utf8 (requestStart ++
    ("c=biws,r=" ++ serverNonce ++ ",p=").toList.flatMap Json.Quoted.escape)

def proofEnd : List UInt8 :=
  Text.utf8 requestEnd

theorem proofEnd_eq : proofEnd = Text.bytes "\"\x7d\x00" :=
  (Text.bytes_ofList requestEnd).symm

theorem proofStart_mark (serverNonce : String) :
    Text.bytes ",p=" <:+ proofStart serverNonce := by
  have mark : Text.bytes ",p=" = Text.utf8 (",p=".toList.flatMap Json.Quoted.escape) := by
    decide +kernel
  rw [mark, proofStart, String.toList_append, List.flatMap_append, ← List.append_assoc,
    Text.utf8_append _ (List.flatMap _ ",p=".toList)]
  exact List.suffix_append _ _

theorem encode_proof (serverNonce : String) (proof : Hash.Bytes) :
    (encode (⟨"c=biws,r=" ++ serverNonce ++ ",p=" ++ Base64.encode proof⟩ :
        AuthRequest)).data.toList =
      proofStart serverNonce ++ Text.bytes (Base64.encode proof) ++ proofEnd := by
  rw [encode_authRequest, String.toList_append, List.flatMap_append, Base64.encode,
    String.toList_ofList, escape_encodeChars, ← List.append_assoc, Text.utf8_append,
    Text.utf8_append, Text.bytes_ofList]
  rfl

end Frame

section Alike

variable {functions : Hash.Functions} {password : String}

def Attempt.withPassword (attempt : Attempt) (password : String) : Attempt :=
  { attempt with exchange := { attempt.exchange with password } }

/-- A handshake that has another password and is otherwise the same. -/
def Negotiation.withPassword (negotiation : Negotiation) (password : String) : Negotiation :=
  { negotiation with attempt := negotiation.attempt.withPassword password }

namespace Attempt

theorem outgoing_withPassword {attempt : Attempt}
    (unasked : attempt.stage ≠ .serverFirstReceived) :
    (attempt.withPassword password).outgoing functions =
      (attempt.outgoing functions).map
        (·.map fun (message, next) => (message, next.withPassword password)) := by
  obtain ⟨stage, exchange, version⟩ := attempt
  cases stage with
  | serverFirstReceived => exact absurd rfl unasked
  | _ => rfl

theorem acceptReply_withPassword {attempt : Attempt} {frame : List UInt8}
    (unproved : attempt.stage ≠ .clientFinalSent) :
    (attempt.withPassword password).acceptReply functions frame =
      (attempt.acceptReply functions frame).map (·.withPassword password) := by
  obtain ⟨stage, exchange, version⟩ := attempt
  cases stage with
  | clientFinalSent => exact absurd rfl unproved
  | init =>
      simp only [acceptReply, withPassword, map_bind]
      rfl
  | clientFirstSent =>
      simp only [acceptReply, withPassword, map_bind, Scram.Client.acceptServerFirst, bind_assoc,
        pure_bind]
      rfl
  | _ => rfl

end Attempt

namespace Negotiation

variable {negotiation : Negotiation}

theorem write_withPassword (negotiation : Negotiation) (message : ByteArray) (next : Attempt)
    (password : String) :
    (negotiation.withPassword password).write message (next.withPassword password) =
      (negotiation.write message next).withPassword password := by
  obtain ⟨attempt, unread, sent, writeFault, result⟩ := negotiation
  cases writeFault <;> rfl

theorem read_withPassword (unproved : negotiation.attempt.stage ≠ .clientFinalSent) :
    (negotiation.withPassword password).read functions =
      (negotiation.read functions).withPassword password := by
  simp only [read, withPassword]
  cases nextFrame negotiation.unread with
  | incomplete => rfl
  | tooLong => rfl
  | found body rest =>
      simp only [Attempt.acceptReply_withPassword unproved]
      cases negotiation.attempt.acceptReply functions body <;> rfl

/-- Outside the two stages that are about the proof, a move does not depend on the password. -/
theorem move_withPassword (unasked : negotiation.attempt.stage ≠ .serverFirstReceived)
    (unproved : negotiation.attempt.stage ≠ .clientFinalSent) :
    (negotiation.withPassword password).move functions =
      (negotiation.move functions).withPassword password := by
  cases going : negotiation.result with
  | some outcome =>
      have still : (negotiation.withPassword password).result = some outcome := going
      rw [move_of_over going, move_of_over still]
  | none =>
      have still : (negotiation.withPassword password).result = none := going
      have same : (negotiation.withPassword password).attempt.outgoing functions = _ :=
        Attempt.outgoing_withPassword unasked
      cases sends : negotiation.attempt.outgoing functions with
      | error error =>
          rw [sends] at same
          rw [move_failing going sends, move_failing still same]
          rfl
      | ok message =>
          rw [sends] at same
          cases message with
          | none =>
              rw [move_reading going sends, move_reading still same]
              exact read_withPassword unproved
          | some both =>
              rw [move_writing going sends, move_writing still same]
              exact write_withPassword negotiation both.1 both.2 password

theorem endOfStream_withPassword (negotiation : Negotiation) (password : String) :
    (negotiation.withPassword password).endOfStream =
      negotiation.endOfStream.withPassword password := by
  obtain ⟨attempt, unread, sent, writeFault, result⟩ := negotiation
  cases result <;> rfl

end Negotiation

end Alike

/-- The received bytes begin with an answer to the opening bytes and a server-first text, and both
are acceptable. -/
def Challenged (nonce : String) (received : List UInt8) : Prop :=
  ∃ behind reply serverFirst first, ServerFirstRead nonce received behind reply serverFirst first

section Unchallenged

variable {functions : Hash.Functions} {username password nonce : String}
variable {received : List UInt8}

theorem Progress.challenge {attempt : Attempt} {unread : List UInt8} {sent : List ByteArray}
    (progress : Progress functions username password nonce received attempt unread sent)
    (later : attempt.stage = .serverFirstReceived ∨ attempt.stage = .clientFinalSent ∨
      attempt.stage = .authenticated) : Challenged nonce received := by
  cases progress with
  | challenged read => exact ⟨_, _, _, _, read⟩
  | proved read => exact ⟨_, _, _, _, read⟩
  | authenticated read =>
      obtain ⟨_, _, before, _⟩ := read
      exact ⟨_, _, _, _, before⟩
  | opened | checked _ | asked _ => rcases later with stage | stage | stage <;> cases stage

variable {negotiation : Negotiation}

theorem Fares.challenge
    (fares : Fares functions username password nonce received negotiation)
    (later : negotiation.attempt.stage = .serverFirstReceived ∨
      negotiation.attempt.stage = .clientFinalSent ∨
      negotiation.attempt.stage = .authenticated) : Challenged nonce received := by
  cases fares with
  | going _ _ progress => exact progress.challenge later
  | succeeded _ _ progress => exact progress.challenge later
  | failed _ stage _ => simp [stage] at later

namespace Negotiation

theorem repeat_withPassword
    (fares : Fares functions username password nonce received negotiation)
    (unchallenged : ¬Challenged nonce received) (other : String) (count : Nat) :
    Nat.repeat (move functions) count (negotiation.withPassword other) =
      (Nat.repeat (move functions) count negotiation).withPassword other := by
  induction count with
  | zero => rfl
  | succ count ih =>
      -- the stages that use the password are reached only behind a challenge
      have still := fares.moves count
      exact (congrArg (move functions) ih).trans (move_withPassword
        (fun stage => unchallenged (still.challenge (.inl stage)))
        (fun stage => unchallenged (still.challenge (.inr (.inl stage)))))

/-- Without an acceptable challenge, a run with another password is the same run. -/
theorem run_withPassword {chunks others : List (List UInt8)}
    (same : others.flatten = chunks.flatten) (unchallenged : ¬Challenged nonce chunks.flatten)
    (other : String) :
    run functions (.new username other nonce) others =
      (run functions (.new username password nonce) chunks).withPassword other := by
  have fares : Fares functions username password nonce chunks.flatten _ :=
    Fares.start.arrive chunks.flatten
  have settled := repeat_withPassword fares unchallenged other moveCount
  rw [run, run, foldl_receive_start, foldl_receive_start, same, ← endOfStream_withPassword]
  exact congrArg endOfStream settled

theorem run_unchallenged (functions : Hash.Functions) (username password : String)
    {chunks : List (List UInt8)}
    (unchallenged : ¬Challenged nonce chunks.flatten) :
    let ended := run functions (.new username password nonce) chunks
    ended.attempt.stage = .failed ∧ ∃ error, ended.result = some (.error error) := by
  intro ended
  have fares : Fares functions username password nonce chunks.flatten ended := by
    rw [show ended = _ from congrArg endOfStream (foldl_receive_start functions _ chunks)]
    exact (Fares.start.arrive chunks.flatten).settle.endOfStream
  have unfinished : ended.attempt.stage ≠ .authenticated :=
    fun stage => unchallenged (fares.challenge (.inr (.inr stage)))
  cases fares with
  | going result _ _ => exact absurd result (over_endOfStream _)
  | succeeded _ stage _ => exact absurd stage unfinished
  | failed result stage _ => exact ⟨stage, _, result⟩

end Negotiation

end Unchallenged

/-- The attributes of a reply of the server, or why it has none. -/
def replyAttributes (body : List UInt8) : Except ClientError Scram.Attributes :=
  lift do
    let reply : AuthReply ← decode body
    (Scram.Attributes.parse (← reply.result)).mapError .driver

/-- What a client reads that has proved the password. -/
def finalAttributes (behind : List UInt8) : Except ClientError Scram.Attributes :=
  match nextFrame behind with
  | .incomplete =>
      .error (.transport (
        if behind.isEmpty then "connection closed during handshake"
        else "connection closed in the middle of a handshake frame"))
  | .tooLong => .error (.protocol (.invalidMessage (.handshakeFrameTooLong maxFrame)))
  | .found body _ => replyAttributes body

/-- The last check of a handshake. -/
def checkSignature (signature : Hash.Bytes) (attributes : Scram.Attributes) :
    Except ClientError Unit :=
  if (attributes.get? 'v').bind Base64.decode? = some signature then .ok ()
  else .error (.auth .invalidServerSignature)

theorem lift_verifyServerFinal {functions : Hash.Functions} {client : Scram.Client}
    {key : Hash.Bytes} (known : client.serverKey = some key) (text : String) :
    lift (client.verifyServerFinal functions text) =
      lift ((Scram.Attributes.parse text).mapError .driver) >>=
        checkSignature (functions.keyed key (Text.bytes client.transcript)) := by
  simp only [lift, Scram.Client.verifyServerFinal, known, mapError_bind]
  congr 1
  funext attributes
  rw [checkSignature]
  split <;> rfl

section Challenged

variable {functions : Hash.Functions} {username password nonce serverFirst : String}
variable {first : Scram.ServerFirst} {version : Option String}

theorem acceptReply_proved (body : List UInt8) :
    lift ((⟨.clientFinalSent, proved functions username password nonce serverFirst first,
        version⟩ : Attempt).acceptReply functions body) =
      (replyAttributes body >>=
          checkSignature
            (serverSignature functions username password nonce serverFirst first)).map fun _ =>
        ⟨.authenticated, proved functions username password nonce serverFirst first, version⟩ := by
  have verified (text : String) :
      ((proved functions username password nonce serverFirst first).verifyServerFinal functions
          text).mapError ClientError.ofProtocol =
        ((Scram.Attributes.parse text).mapError .driver).mapError ClientError.ofProtocol >>=
          checkSignature (serverSignature functions username password nonce serverFirst first) :=
    lift_verifyServerFinal rfl text
  simp only [lift, Attempt.acceptReply, replyAttributes, mapError_bind, map_bind, bind_assoc,
    verified]
  rfl

/-- The end of a handshake that has proved the password and then finds the stream closed: how it
ends depends on the password through the signature alone. -/
theorem endOfStream_proved (behind : List UInt8) (sent : List ByteArray) :
    let ended := ((⟨⟨.clientFinalSent, proved functions username password nonce serverFirst first,
      version⟩, behind, sent, none, none⟩ : Negotiation).move functions).endOfStream
    ended.sent = sent ∧
      ended.result = some (finalAttributes behind >>=
        checkSignature
          (serverSignature functions username password nonce serverFirst first)) := by
  intro ended
  have same : ended = (Negotiation.read functions _).endOfStream :=
    congrArg Negotiation.endOfStream (Negotiation.move_reading rfl rfl)
  rw [same]
  cases found : nextFrame behind with
  | incomplete =>
      simp only [Negotiation.read, finalAttributes, found]
      exact ⟨rfl, rfl⟩
  | tooLong =>
      simp only [Negotiation.read, finalAttributes, found]
      exact ⟨rfl, rfl⟩
  | found body rest =>
      have replied : lift ((⟨.clientFinalSent, proved functions username password nonce serverFirst
          first, version⟩ : Attempt).acceptReply functions body) = _ := acceptReply_proved body
      simp only [Negotiation.read, finalAttributes, found]
      -- an error is told to the caller in another form, but either both fail or neither does
      generalize replyAttributes body >>= checkSignature _ = outcome at replied ⊢
      cases accepted : (⟨.clientFinalSent, proved functions username password nonce serverFirst
          first, version⟩ : Attempt).acceptReply functions body <;> rw [accepted] at replied
      all_goals cases outcome <;> cases replied
      all_goals exact ⟨rfl, rfl⟩

theorem run_challenged (functions : Hash.Functions) (username password : String)
    {chunks : List (List UInt8)} {behind : List UInt8} {reply : VersionReply}
    (read : ServerFirstRead nonce chunks.flatten behind reply serverFirst first) :
    let ended := Negotiation.run functions (.new username password nonce) chunks
    ended.sent = [openingBytes, clientFirst username nonce,
      clientFinal functions username password nonce serverFirst first] ∧
      ended.result = some (finalAttributes behind >>=
        checkSignature
          (serverSignature functions username password nonce serverFirst first)) := by
  obtain ⟨firstFrame, ⟨versionFrame, begins, agreed⟩, given, reads⟩ := read
  intro ended
  have settled :
      (⟨.new username password nonce, versionFrame ++ (firstFrame ++ behind), [openingBytes], none,
        none⟩ : Negotiation).settle functions = _ :=
    Negotiation.settle_challenged behind [openingBytes] agreed given reads
  rw [← begins, ← Negotiation.arrive_start] at settled
  have same : ended = _ :=
    congrArg Negotiation.endOfStream ((Negotiation.foldl_receive_start functions _ chunks).trans
      settled)
  rw [same]
  exact endOfStream_proved behind _

theorem clientFinal_eq :
    clientFinal functions username password nonce serverFirst first =
      ⟨(proofStart first.nonce ++
        Text.bytes (Base64.encode (Scram.clientProof functions
          (saltedPassword functions password first)
          (signedText username nonce serverFirst first.nonce))) ++ proofEnd).toArray⟩ := by
  rw [clientFinal, ← encode_proof]

end Challenged

theorem length_proof {functions : Hash.Functions} (sized : functions.Sized) (salted : Hash.Bytes)
    (said : String) :
    (Text.bytes (Base64.encode (Scram.clientProof functions salted said))).length = 44 := by
  rw [length_bytes_encode, Scram.length_clientProof sized]

namespace Negotiation

/-- Two runs with different passwords on the same bytes, however these are cut, write the same
before an acceptable challenge and are the same without one. Behind one they differ in the proof
and in the signature that the same bytes are checked for. -/
theorem password_shows_only_in_proof {functions : Hash.Functions} (sized : functions.Sized)
    (username nonce left right : String) {chunks others : List (List UInt8)}
    (same : others.flatten = chunks.flatten) :
    let first := run functions (.new username left nonce) chunks
    let second := run functions (.new username right nonce) others
    first.sent.take 2 = second.sent.take 2 ∧
    (¬Challenged nonce chunks.flatten →
      first.sent = second.sent ∧ first.attempt.stage = .failed ∧ second.attempt.stage = .failed ∧
      (∃ error, first.result = some (.error error) ∧ second.result = some (.error error)) ∧
      second = first.withPassword right) ∧
    ∀ behind reply serverFirst challenge,
      ServerFirstRead nonce chunks.flatten behind reply serverFirst challenge →
      (∃ before after leftProof rightProof,
        let frame (proof : Hash.Bytes) := before ++ Text.bytes (Base64.encode proof) ++ after
        first.sent = [openingBytes, clientFirst username nonce, ⟨(frame leftProof).toArray⟩] ∧
        second.sent = [openingBytes, clientFirst username nonce, ⟨(frame rightProof).toArray⟩] ∧
        Text.bytes ",p=" <:+ before ∧ after = Text.bytes "\"\x7d\x00" ∧
        (frame leftProof).length = (frame rightProof).length) ∧
      first.result = some (finalAttributes behind >>=
        checkSignature (serverSignature functions username left nonce serverFirst challenge)) ∧
      second.result = some (finalAttributes behind >>=
        checkSignature (serverSignature functions username right nonce serverFirst challenge)) := by
  intro first second
  have apart (unchallenged : ¬Challenged nonce chunks.flatten) :
      second = first.withPassword right :=
    run_withPassword same unchallenged right
  have behindChallenge {behind : List UInt8} {reply : VersionReply} {serverFirst : String}
      {challenge : Scram.ServerFirst}
      (read : ServerFirstRead nonce chunks.flatten behind reply serverFirst challenge) :=
    And.intro (run_challenged functions username left read)
      (run_challenged functions username right (same.symm ▸ read))
  refine ⟨?_, ?_, ?_⟩
  · by_cases challenged : Challenged nonce chunks.flatten
    · obtain ⟨_, _, _, _, read⟩ := challenged
      obtain ⟨⟨sent, _⟩, otherSent, _⟩ := behindChallenge read
      calc first.sent.take 2 = [openingBytes, clientFirst username nonce] :=
            congrArg (List.take 2) sent
        _ = second.sent.take 2 := congrArg (List.take 2) otherSent.symm
    · exact congrArg (List.take 2) (congrArg Negotiation.sent (apart challenged)).symm
  · intro unchallenged
    obtain ⟨stage, error, result⟩ := run_unchallenged functions username left unchallenged
    rw [apart unchallenged]
    exact ⟨rfl, stage, stage, ⟨error, result, result⟩, rfl⟩
  · intro behind reply serverFirst challenge read
    obtain ⟨⟨sent, result⟩, otherSent, otherResult⟩ := behindChallenge read
    rw [clientFinal_eq] at sent otherSent
    refine ⟨⟨proofStart challenge.nonce, proofEnd, _, _, sent, otherSent,
      proofStart_mark challenge.nonce, proofEnd_eq, ?_⟩, result, otherResult⟩
    simp only [List.length_append, length_proof sized]

/-- The bytes come one by one and all at once, and the stream breaks off behind the challenge. -/
theorem password_shows_only_in_proof_bytewise :
    let version := (encode (VersionReply.accept 0 1 "2.4")).data.toList
    let serverFirst := (encode (AuthReply.accept "r=abc\",s=AA==,i=7")).data.toList
    let stream := version ++ serverFirst ++ [7]
    let chunks := stream.map fun byte => [byte]
    let first := run Hash.standard (.new "a,b" "pencil" "abc") chunks
    let second := run Hash.standard (.new "a,b" "" "abc") [stream]
    Hash.standard.Sized ∧ [stream].flatten = chunks.flatten ∧
      first.sent.take 2 = second.sent.take 2 ∧
      first.sent.map ByteArray.size = second.sent.map ByteArray.size ∧
      first.result =
        some (.error (.transport "connection closed in the middle of a handshake frame")) ∧
      second.result = first.result := by
  intro version serverFirst stream chunks first second
  have whole : chunks.flatten = stream := by
    rw [← List.flatMap_def, List.flatMap_singleton']
  have same : [stream].flatten = chunks.flatten := by rw [whole, List.flatten_singleton]
  have agreed : AgreesOnVersion version (VersionReply.accept 0 1 "2.4") :=
    ⟨by decide +kernel, ok_of_toOption (by decide +kernel), rfl, by decide, by decide⟩
  have given : GoesOnWith serverFirst "r=abc\",s=AA==,i=7" :=
    ⟨by decide +kernel, .accept "r=abc\",s=AA==,i=7", ok_of_toOption (by decide +kernel), rfl, rfl⟩
  have reads : Scram.ServerFirst.read "abc" "r=abc\",s=AA==,i=7" = .ok ⟨"abc\"", [0], 7⟩ :=
    ok_of_toOption (by decide +kernel)
  have read : ServerFirstRead "abc" chunks.flatten [7] _ _ _ :=
    ⟨serverFirst, ⟨version, whole.trans (List.append_assoc ..), agreed⟩, given, reads⟩
  have cutOff : finalAttributes [7] =
      .error (.transport "connection closed in the middle of a handshake frame") := rfl
  clear_value chunks stream
  obtain ⟨started, _, challenged⟩ :=
    password_shows_only_in_proof Hash.standard_sized "a,b" "abc" "pencil" "" same
  obtain ⟨⟨_, _, _, _, sent, otherSent, _, _, length⟩, ended, otherEnded⟩ :=
    challenged _ _ _ _ read
  rw [cutOff] at ended otherEnded
  have sizes : first.sent.map ByteArray.size = second.sent.map ByteArray.size := by
    rw [sent, otherSent]
    simp only [List.map_cons, ByteArray.size, List.size_toArray, length]
  have result : first.result =
      some (.error (.transport "connection closed in the middle of a handshake frame")) := ended
  exact ⟨Hash.standard_sized, same, started, sizes, result, otherEnded.trans result.symm⟩

end Negotiation

end QueryDriver.Handshake
