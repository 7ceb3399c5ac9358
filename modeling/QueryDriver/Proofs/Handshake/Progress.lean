import QueryDriver.Proofs.Handshake.Settling

/-!
How far a handshake has come, told by the frames with which the received bytes begin. Whatever
arrives, and whenever a handshake moves, is refused a write or is cut off, it has come just as far
as the frames it has accepted lead.
-/

namespace QueryDriver.Handshake

/-- A reply to the opening bytes that speaks this side's version of the protocol. -/
def AgreesOnVersion (frame : List UInt8) (reply : VersionReply) : Prop :=
  IsFrame frame ∧ decode frame = .ok reply ∧
    reply.success = true ∧ reply.minVersion ≤ 0 ∧ 0 ≤ reply.maxVersion

/-- A reply that goes on with the authentication by a text. -/
def GoesOnWith (frame : List UInt8) (text : String) : Prop :=
  IsFrame frame ∧
    ∃ reply : AuthReply, decode frame = .ok reply ∧
      reply.success = true ∧ reply.authentication = some text

/-- What both sides sign: the exchange, without the proofs. -/
def signedText (username nonce serverFirst serverNonce : String) : String :=
  "n=" ++ Scram.escapeUsername username ++ ",r=" ++ nonce ++ "," ++ serverFirst ++
    ",c=biws,r=" ++ serverNonce

def saltedPassword (functions : Hash.Functions) (password : String) (first : Scram.ServerFirst) :
    Hash.Bytes :=
  functions.derive (Text.bytes password) first.salt first.iterations

/-- What a server that knows the password signs with its key. -/
def serverSignature (functions : Hash.Functions) (username password nonce serverFirst : String)
    (first : Scram.ServerFirst) : Hash.Bytes :=
  functions.keyed
    (functions.keyed (saltedPassword functions password first) (Text.bytes "Server Key"))
    (Text.bytes (signedText username nonce serverFirst first.nonce))

/-- A server-final text whose last `v` is a signature in base64. -/
def Proves (text : String) (signature : Hash.Bytes) : Prop :=
  ∃ attributes, Scram.Attributes.parse text = .ok attributes ∧
    attributes.get? 'v' = some (Base64.encode signature)

def openingBytes : ByteArray :=
  ⟨magic.toArray⟩

def clientFirst (username nonce : String) : ByteArray :=
  encode (ClientFirst.ofText ("n,,n=" ++ Scram.escapeUsername username ++ ",r=" ++ nonce))

def clientFinal (functions : Hash.Functions) (username password nonce serverFirst : String)
    (first : Scram.ServerFirst) : ByteArray :=
  encode (⟨"c=biws,r=" ++ first.nonce ++ ",p=" ++
    Base64.encode (Scram.clientProof functions (saltedPassword functions password first)
      (signedText username nonce serverFirst first.nonce))⟩ : AuthRequest)

def challenged (username password nonce serverFirst : String) (first : Scram.ServerFirst) :
    Scram.Client :=
  { Scram.Client.new username password nonce with
    transcript := Scram.Client.firstBare username nonce ++ "," ++ serverFirst
    serverFirst := some first }

def proved (functions : Hash.Functions) (username password nonce serverFirst : String)
    (first : Scram.ServerFirst) : Scram.Client :=
  { challenged username password nonce serverFirst first with
    transcript := signedText username nonce serverFirst first.nonce
    serverKey := some (Scram.serverKey functions (saltedPassword functions password first)) }

theorem signedText_eq (username nonce serverFirst serverNonce : String) :
    Scram.Client.firstBare username nonce ++ "," ++ serverFirst ++ "," ++
      Scram.Client.finalBare serverNonce = signedText username nonce serverFirst serverNonce := by
  have binding : ",c=biws,r=" = "," ++ ("c=" ++ Scram.channelBinding ++ ",r=") := by decide
  simp only [signedText, binding, Scram.Client.firstBare, Scram.Client.finalBare,
    String.append_assoc]

section Accepting

variable {functions : Hash.Functions} {username password nonce serverFirst : String}
variable {first : Scram.ServerFirst} {version : Option String} {next : Attempt}
variable {body : List UInt8}

theorem decode_of_isFrame {α : Type} [Message α] (frame : IsFrame (body ++ [terminator])) :
    (decode body : Except ProtocolError α) = decode (body ++ [terminator]) :=
  (decode_frame frame.plain).symm

theorem accepts_version {exchange : Scram.Client} (frame : IsFrame (body ++ [terminator])) :
    (⟨.init, exchange, version⟩ : Attempt).acceptReply functions body = .ok next ↔
      ∃ reply, AgreesOnVersion (body ++ [terminator]) reply ∧
        next = ⟨.versionChecked, exchange, reply.serverVersion⟩ := by
  rw [Attempt.acceptReply_init rfl, decode_of_isFrame frame]
  simp only [AgreesOnVersion, frame, true_and, and_assoc]

theorem accepts_serverFirst (frame : IsFrame (body ++ [terminator])) :
    (⟨.clientFirstSent, .new username password nonce, version⟩ : Attempt).acceptReply
        functions body = .ok next ↔
      ∃ text first, GoesOnWith (body ++ [terminator]) text ∧
        Scram.ServerFirst.read nonce text = .ok first ∧
        next = ⟨.serverFirstReceived, challenged username password nonce text first, version⟩ := by
  rw [Attempt.acceptReply_clientFirstSent rfl, decode_of_isFrame frame]
  simp only [Scram.Client.acceptServerFirst_eq_ok_iff]
  constructor
  · rintro ⟨reply, decoded, text, given, exchange, ⟨first, accepted, rfl⟩, same⟩
    exact ⟨text, first, ⟨frame, reply, decoded, given⟩, accepted, same⟩
  · rintro ⟨text, first, ⟨_, reply, decoded, given⟩, accepted, same⟩
    exact ⟨reply, decoded, text, given, _, ⟨first, accepted, rfl⟩, same⟩

theorem accepts_serverFinal (frame : IsFrame (body ++ [terminator])) :
    (⟨.clientFinalSent, proved functions username password nonce serverFirst first, version⟩ :
        Attempt).acceptReply functions body = .ok next ↔
      ∃ text, GoesOnWith (body ++ [terminator]) text ∧
        Proves text (serverSignature functions username password nonce serverFirst first) ∧
        next = ⟨.authenticated, proved functions username password nonce serverFirst first,
          version⟩ := by
  rw [Attempt.acceptReply_clientFinalSent rfl, decode_of_isFrame frame]
  simp only [Scram.Client.verifyServerFinal_eq_ok_iff (show (proved functions username password
    nonce serverFirst first).serverKey = some _ from rfl)]
  constructor
  · rintro ⟨reply, decoded, text, given, signed, same⟩
    exact ⟨text, ⟨frame, reply, decoded, given⟩, signed, same⟩
  · rintro ⟨text, ⟨_, reply, decoded, given⟩, signed, same⟩
    exact ⟨reply, decoded, text, given, signed, same⟩

theorem outgoing_clientFirst :
    (⟨.versionChecked, .new username password nonce, version⟩ : Attempt).outgoing functions =
      .ok (some (clientFirst username nonce,
        ⟨.clientFirstSent, .new username password nonce, version⟩)) := by
  have text : (Scram.Client.new username password nonce).firstMessage =
      "n,,n=" ++ Scram.escapeUsername username ++ ",r=" ++ nonce := by
    have header : "n,,n=" = Scram.header ++ "n=" := by decide
    simp only [header, Scram.Client.firstMessage, Scram.Client.new, Scram.Client.firstBare,
      String.append_assoc]
  simp only [Attempt.outgoing, text]
  rfl

theorem outgoing_clientFinal :
    (⟨.serverFirstReceived, challenged username password nonce serverFirst first, version⟩ :
        Attempt).outgoing functions =
      .ok (some (clientFinal functions username password nonce serverFirst first,
        ⟨.clientFinalSent, proved functions username password nonce serverFirst first,
          version⟩)) := by
  have bare : Scram.Client.finalBare first.nonce = "c=biws,r=" ++ first.nonce := by
    have binding : "c=biws,r=" = "c=" ++ Scram.channelBinding ++ ",r=" := by decide
    rw [Scram.Client.finalBare, binding]
  have made : (challenged username password nonce serverFirst first).makeFinal functions =
      .ok (proved functions username password nonce serverFirst first,
        "c=biws,r=" ++ first.nonce ++ ",p=" ++
          Base64.encode (Scram.clientProof functions (saltedPassword functions password first)
            (signedText username nonce serverFirst first.nonce))) := by
    rw [← bare, ← signedText_eq, proved, ← signedText_eq]
    rfl
  simp only [Attempt.outgoing, made]
  rfl

end Accepting

section Received

variable (functions : Hash.Functions) (username password nonce : String)

/-- The received bytes begin with a frame that agrees on the version. -/
def VersionRead (received unread : List UInt8) (reply : VersionReply) : Prop :=
  ∃ frame, received = frame ++ unread ∧ AgreesOnVersion frame reply

/-- Behind that there is a frame with a server-first text that is acceptable. -/
def ServerFirstRead (received unread : List UInt8) (reply : VersionReply) (serverFirst : String)
    (first : Scram.ServerFirst) : Prop :=
  ∃ frame, VersionRead received (frame ++ unread) reply ∧ GoesOnWith frame serverFirst ∧
    Scram.ServerFirst.read nonce serverFirst = .ok first

/-- Behind that there is a frame by which the server proves that it knows the password. -/
def ServerFinalRead (received unread : List UInt8) (reply : VersionReply) (serverFirst : String)
    (first : Scram.ServerFirst) : Prop :=
  ∃ frame text, ServerFirstRead nonce received (frame ++ unread) reply serverFirst first ∧
    GoesOnWith frame text ∧
    Proves text (serverSignature functions username password nonce serverFirst first)

/-- The attempt, the bytes left to read and the messages sent, as the received bytes have it. -/
inductive Progress (received : List UInt8) : Attempt → List UInt8 → List ByteArray → Prop
  | opened : Progress received (.new username password nonce) received [openingBytes]
  | checked {unread : List UInt8} {reply : VersionReply} :
      VersionRead received unread reply →
      Progress received ⟨.versionChecked, .new username password nonce, reply.serverVersion⟩ unread
        [openingBytes]
  | asked {unread : List UInt8} {reply : VersionReply} :
      VersionRead received unread reply →
      Progress received ⟨.clientFirstSent, .new username password nonce, reply.serverVersion⟩ unread
        [openingBytes, clientFirst username nonce]
  | challenged {unread : List UInt8} {reply : VersionReply} {serverFirst : String}
      {first : Scram.ServerFirst} :
      ServerFirstRead nonce received unread reply serverFirst first →
      Progress received
        ⟨.serverFirstReceived, challenged username password nonce serverFirst first,
          reply.serverVersion⟩ unread
        [openingBytes, clientFirst username nonce]
  | proved {unread : List UInt8} {reply : VersionReply} {serverFirst : String}
      {first : Scram.ServerFirst} :
      ServerFirstRead nonce received unread reply serverFirst first →
      Progress received
        ⟨.clientFinalSent, proved functions username password nonce serverFirst first,
          reply.serverVersion⟩ unread
        [openingBytes, clientFirst username nonce,
          clientFinal functions username password nonce serverFirst first]
  | authenticated {unread : List UInt8} {reply : VersionReply} {serverFirst : String}
      {first : Scram.ServerFirst} :
      ServerFinalRead functions username password nonce received unread reply serverFirst first →
      Progress received
        ⟨.authenticated, proved functions username password nonce serverFirst first,
          reply.serverVersion⟩ unread
        [openingBytes, clientFirst username nonce,
          clientFinal functions username password nonce serverFirst first]

end Received

section Arriving

variable {functions : Hash.Functions} {username password nonce serverFirst : String}
variable {first : Scram.ServerFirst} {reply : VersionReply}
variable {received unread : List UInt8}

theorem VersionRead.arrive (read : VersionRead received unread reply) (chunk : List UInt8) :
    VersionRead (received ++ chunk) (unread ++ chunk) reply := by
  obtain ⟨frame, same, agreed⟩ := read
  exact ⟨frame, by rw [same, List.append_assoc], agreed⟩

theorem ServerFirstRead.arrive
    (read : ServerFirstRead nonce received unread reply serverFirst first) (chunk : List UInt8) :
    ServerFirstRead nonce (received ++ chunk) (unread ++ chunk) reply serverFirst first := by
  obtain ⟨frame, before, given, accepted⟩ := read
  refine ⟨frame, ?_, given, accepted⟩
  rw [← List.append_assoc]
  exact before.arrive chunk

theorem ServerFinalRead.arrive
    (read : ServerFinalRead functions username password nonce received unread reply serverFirst
      first) (chunk : List UInt8) :
    ServerFinalRead functions username password nonce (received ++ chunk) (unread ++ chunk) reply
      serverFirst first := by
  obtain ⟨frame, text, before, given, signed⟩ := read
  refine ⟨frame, text, ?_, given, signed⟩
  rw [← List.append_assoc]
  exact before.arrive chunk

theorem Progress.arrive {attempt : Attempt} {sent : List ByteArray}
    (progress : Progress functions username password nonce received attempt unread sent)
    (chunk : List UInt8) :
    Progress functions username password nonce (received ++ chunk) attempt (unread ++ chunk)
      sent := by
  cases progress with
  | opened => exact .opened
  | checked read => exact .checked (read.arrive chunk)
  | asked read => exact .asked (read.arrive chunk)
  | challenged read => exact .challenged (read.arrive chunk)
  | proved read => exact .proved (read.arrive chunk)
  | authenticated read => exact .authenticated (read.arrive chunk)

end Arriving

section Moving

variable {functions : Hash.Functions} {username password nonce : String}
variable {received : List UInt8}

theorem Progress.reply {attempt next : Attempt} {sent : List ByteArray} {body rest : List UInt8}
    (progress : Progress functions username password nonce received attempt
      (body ++ [terminator] ++ rest) sent)
    (frame : IsFrame (body ++ [terminator]))
    (accepted : attempt.acceptReply functions body = .ok next) :
    Progress functions username password nonce received next rest sent := by
  generalize same : body ++ [terminator] ++ rest = unread at progress
  -- Three stages wait for a reply and take one kind of frame each; the others refuse any.
  cases progress with
  | opened =>
      obtain ⟨reply, agreed, rfl⟩ := (accepts_version frame).mp accepted
      exact .checked ⟨_, same.symm, agreed⟩
  | asked read =>
      obtain ⟨text, first, given, reads, rfl⟩ := (accepts_serverFirst frame).mp accepted
      exact .challenged ⟨_, same ▸ read, given, reads⟩
  | proved read =>
      obtain ⟨text, given, signed, rfl⟩ := (accepts_serverFinal frame).mp accepted
      exact .authenticated ⟨_, text, same ▸ read, given, signed⟩
  | checked _ | challenged _ | authenticated _ => cases accepted

theorem Progress.message {attempt next : Attempt} {unread : List UInt8} {sent : List ByteArray}
    {message : ByteArray}
    (progress : Progress functions username password nonce received attempt unread sent)
    (sends : attempt.outgoing functions = .ok (some (message, next))) :
    Progress functions username password nonce received next unread (sent ++ [message]) := by
  cases progress with
  | checked read =>
      rw [outgoing_clientFirst] at sends
      simp only [Except.ok.injEq, Option.some.injEq, Prod.mk.injEq] at sends
      obtain ⟨rfl, rfl⟩ := sends
      exact .asked read
  | challenged read =>
      rw [outgoing_clientFinal] at sends
      simp only [Except.ok.injEq, Option.some.injEq, Prod.mk.injEq] at sends
      obtain ⟨rfl, rfl⟩ := sends
      exact .proved read
  | opened | asked _ | proved _ | authenticated _ => cases sends

theorem Progress.serverFinal {attempt : Attempt} {unread : List UInt8} {sent : List ByteArray}
    (progress : Progress functions username password nonce received attempt unread sent)
    (stage : attempt.stage = .authenticated) :
    ∃ reply serverFirst first,
      ServerFinalRead functions username password nonce received unread reply serverFirst
        first := by
  cases progress with
  | authenticated read => exact ⟨_, _, _, read⟩
  | _ => cases stage

/-- A handshake is under way, or authenticated, or failed after the progress it has made. -/
inductive Fares (functions : Hash.Functions) (username password nonce : String)
    (received : List UInt8) (negotiation : Negotiation) : Prop
  | going (result : negotiation.result = none)
      (stage : negotiation.attempt.stage ≠ .authenticated)
      (progress : Progress functions username password nonce received negotiation.attempt
        negotiation.unread negotiation.sent)
  | succeeded (result : negotiation.result = some (.ok ()))
      (stage : negotiation.attempt.stage = .authenticated)
      (progress : Progress functions username password nonce received negotiation.attempt
        negotiation.unread negotiation.sent)
  | failed {error : ClientError} {before : Attempt} {unread : List UInt8}
      (result : negotiation.result = some (.error error))
      (stage : negotiation.attempt.stage = .failed)
      (progress : Progress functions username password nonce received before unread
        negotiation.sent)

namespace Fares

variable {negotiation : Negotiation}

theorem start : Fares functions username password nonce []
    (Negotiation.start (.new username password nonce)) :=
  .going rfl Stage.noConfusion .opened

theorem move (fares : Fares functions username password nonce received negotiation) :
    Fares functions username password nonce received (negotiation.move functions) := by
  cases fares with
  | succeeded result stage progress =>
      rw [Negotiation.move_of_over result]
      exact .succeeded result stage progress
  | failed result stage progress =>
      rw [Negotiation.move_of_over result]
      exact .failed result stage progress
  | going result stage progress =>
      have moved := Negotiation.moved functions negotiation
      generalize negotiation.move functions = after at moved
      cases moved with
      | rests => exact .going result stage progress
      | fails _ unread error => exact .failed rfl rfl progress
      | sends _ sends =>
          exact .going result (Attempt.outgoing_leads sends).2 (progress.message sends)
      | @reads _ body rest next frame waiting accepted =>
          rw [waiting] at progress
          have further := progress.reply frame accepted
          by_cases last : next.stage = .authenticated
          · exact .succeeded (if_pos last) last further
          · exact .going (if_neg last) last further

theorem moves (fares : Fares functions username password nonce received negotiation)
    (count : Nat) :
    Fares functions username password nonce received
      (Nat.repeat (Negotiation.move functions) count negotiation) := by
  induction count with
  | zero => exact fares
  | succ count ih => exact ih.move

theorem settle (fares : Fares functions username password nonce received negotiation) :
    Fares functions username password nonce received (negotiation.settle functions) :=
  fares.moves Negotiation.moveCount

theorem arrive (fares : Fares functions username password nonce received negotiation)
    (chunk : List UInt8) :
    Fares functions username password nonce (received ++ chunk) (negotiation.arrive chunk) := by
  cases fares with
  | going result stage progress => exact .going result stage (progress.arrive chunk)
  | succeeded result stage progress => exact .succeeded result stage (progress.arrive chunk)
  | failed result stage progress => exact .failed result stage (progress.arrive chunk)

theorem refuseWrites (fares : Fares functions username password nonce received negotiation)
    (reason : String) :
    Fares functions username password nonce received (negotiation.refuseWrites reason) := by
  cases fares with
  | going result stage progress => exact .going result stage progress
  | succeeded result stage progress => exact .succeeded result stage progress
  | failed result stage progress => exact .failed result stage progress

theorem endOfStream (fares : Fares functions username password nonce received negotiation) :
    Fares functions username password nonce received negotiation.endOfStream := by
  cases fares with
  | going result stage progress =>
      simp only [Negotiation.endOfStream, result]
      exact .failed rfl rfl progress
  | succeeded result stage progress =>
      simp only [Negotiation.endOfStream, result]
      exact .succeeded result stage progress
  | failed result stage progress =>
      simp only [Negotiation.endOfStream, result]
      exact .failed result stage progress

end Fares

end Moving

end QueryDriver.Handshake
