import QueryDriver.Handshake.Attempt
import QueryDriver.Proofs.Base64
import QueryDriver.Proofs.Computation
import QueryDriver.Proofs.Handshake.Frame

/-!
What makes a reply of the server acceptable, stage by stage. An attempt passes from each stage only
to the next one.
-/

namespace QueryDriver

namespace Scram

theorem require_eq_ok_iff {attributes : Attributes} {key : Char} {value : String} :
    attributes.require key = .ok value ↔ attributes.get? key = some value := by
  rw [Attributes.require]
  cases attributes.get? key <;> simp

theorem readSalt_eq_ok_iff {text : String} {salt : Hash.Bytes} :
    readSalt text = .ok salt ↔ Base64.decode? text = some salt := by
  rw [readSalt]
  cases Base64.decode? text <;> simp

theorem readIterations_eq_ok_iff {text : String} {count : Nat} :
    readIterations text = .ok count ↔ readCount text = .ok count ∧ count ≠ 0 := by
  rw [readIterations]
  cases readCount text with
  | error fault => simp
  | ok number => cases number <;> cases count <;> simp

/-- When a server-first message is acceptable, and what it asks for then. -/
theorem read_eq_ok_iff {clientNonce message : String} {first : ServerFirst} :
    ServerFirst.read clientNonce message = .ok first ↔
      ∃ attributes, Attributes.parse message = .ok attributes ∧
        attributes.contains 'm' = false ∧
        attributes.get? 'r' = some first.nonce ∧ clientNonce.toList <+: first.nonce.toList ∧
        (∃ salt, attributes.get? 's' = some salt ∧ Base64.decode? salt = some first.salt) ∧
        ∃ count, attributes.get? 'i' = some count ∧
          readCount count = .ok first.iterations ∧ first.iterations ≠ 0 := by
  simp only [ServerFirst.read, bind_eq_ok, mapError_eq_ok, unless_eq_ok, require_eq_ok_iff,
    readSalt_eq_ok_iff, readIterations_eq_ok_iff, pure_eq_ok, Bool.not_eq_true,
    Bool.not_eq_false', List.isPrefixOf_iff_prefix]
  constructor
  · rintro ⟨attributes, parsed, plain, nonce, given, begins, salt, hasSalt, bytes, decoded, text,
      hasCount, count, counted, rfl⟩
    exact ⟨attributes, parsed, plain, given, begins, ⟨salt, hasSalt, decoded⟩, text, hasCount,
      counted⟩
  · rintro ⟨attributes, parsed, plain, given, begins, ⟨salt, hasSalt, decoded⟩, text, hasCount,
      counted⟩
    exact ⟨attributes, parsed, plain, _, given, begins, salt, hasSalt, _, decoded, text, hasCount,
      _, counted, rfl⟩

theorem read_nonce {clientNonce message : String} {first : ServerFirst}
    (accepted : ServerFirst.read clientNonce message = .ok first) :
    clientNonce.toList <+: first.nonce.toList := by
  obtain ⟨_, _, _, _, begins, _⟩ := read_eq_ok_iff.mp accepted
  exact begins

theorem read_iterations {clientNonce message : String} {first : ServerFirst}
    (accepted : ServerFirst.read clientNonce message = .ok first) : 1 ≤ first.iterations := by
  obtain ⟨_, _, _, _, _, _, _, _, _, counts⟩ := read_eq_ok_iff.mp accepted
  exact Nat.one_le_iff_ne_zero.mpr counts

namespace Client

theorem acceptServerFirst_eq_ok_iff {client next : Client} {message : String} :
    client.acceptServerFirst message = .ok next ↔
      ∃ first, ServerFirst.read client.nonce message = .ok first ∧
        next = { client with
          transcript := client.transcript ++ "," ++ message
          serverFirst := some first } := by
  simp only [acceptServerFirst, bind_eq_ok, pure_eq_ok]
  simp only [eq_comm (a := next)]

theorem verifyServerFinal_eq_ok_iff {functions : Hash.Functions} {client : Client}
    {key : Hash.Bytes} (known : client.serverKey = some key) {message : String} :
    client.verifyServerFinal functions message = .ok () ↔
      ∃ attributes, Attributes.parse message = .ok attributes ∧
        attributes.get? 'v' =
          some (Base64.encode (functions.keyed key (Text.bytes client.transcript))) := by
  simp only [verifyServerFinal, known, bind_eq_ok, mapError_eq_ok]
  constructor
  · rintro ⟨attributes, parsed, signed⟩
    split at signed
    · rename_i same
      obtain ⟨text, given, decoded⟩ := Option.bind_eq_some_iff.mp same
      exact ⟨attributes, parsed, given.trans (congrArg some (Base64.decode_eq_some_iff.mp decoded))⟩
    · cases signed
  · rintro ⟨attributes, parsed, given⟩
    refine ⟨attributes, parsed, ?_⟩
    rw [given, Option.bind_some, Base64.decode_eq_some_iff.mpr rfl, if_pos rfl]
    rfl

end Client

end Scram

namespace Handshake

theorem check_eq_ok_iff {reply : VersionReply} {client : UInt32} :
    reply.check client = .ok () ↔
      reply.success = true ∧ reply.minVersion ≤ client ∧ client ≤ reply.maxVersion := by
  cases succeeds : reply.success with
  | false => simp [VersionReply.check, succeeds]
  | true => simp [VersionReply.check, succeeds, isVersionCompatible]

theorem result_eq_ok_iff {reply : AuthReply} {text : String} :
    reply.result = .ok text ↔ reply.success = true ∧ reply.authentication = some text := by
  cases succeeds : reply.success with
  | false => simp [AuthReply.result, succeeds]
  | true => cases given : reply.authentication <;> simp [AuthReply.result, succeeds, given]

/-- The order of the stages of a handshake that goes well. -/
inductive Stage.Leads : Stage → Stage → Prop
  | checked : Leads .init .versionChecked
  | asked : Leads .versionChecked .clientFirstSent
  | challenged : Leads .clientFirstSent .serverFirstReceived
  | proved : Leads .serverFirstReceived .clientFinalSent
  | authenticated : Leads .clientFinalSent .authenticated

namespace Attempt

variable {functions : Hash.Functions} {attempt next : Attempt} {frame : List UInt8}

theorem acceptReply_init (stage : attempt.stage = .init) :
    attempt.acceptReply functions frame = .ok next ↔
      ∃ reply : VersionReply, decode frame = .ok reply ∧
        (reply.success = true ∧ reply.minVersion ≤ 0 ∧ 0 ≤ reply.maxVersion) ∧
        next = { attempt with stage := .versionChecked, serverVersion := reply.serverVersion } := by
  simp only [acceptReply, stage, bind_eq_ok (α := VersionReply), then_eq_ok, pure_eq_ok]
  simp only [check_eq_ok_iff, eq_comm (a := next)]
  rfl

theorem acceptReply_clientFirstSent (stage : attempt.stage = .clientFirstSent) :
    attempt.acceptReply functions frame = .ok next ↔
      ∃ reply : AuthReply, decode frame = .ok reply ∧
        ∃ text, (reply.success = true ∧ reply.authentication = some text) ∧
          ∃ exchange, attempt.exchange.acceptServerFirst text = .ok exchange ∧
            next = { attempt with stage := .serverFirstReceived, exchange } := by
  simp only [acceptReply, stage, bind_eq_ok, pure_eq_ok, result_eq_ok_iff]
  simp only [eq_comm (a := next)]

theorem acceptReply_clientFinalSent (stage : attempt.stage = .clientFinalSent) :
    attempt.acceptReply functions frame = .ok next ↔
      ∃ reply : AuthReply, decode frame = .ok reply ∧
        ∃ text, (reply.success = true ∧ reply.authentication = some text) ∧
          attempt.exchange.verifyServerFinal functions text = .ok () ∧
            next = { attempt with stage := .authenticated } := by
  simp only [acceptReply, stage, bind_eq_ok (α := AuthReply), bind_eq_ok (α := String),
    then_eq_ok, pure_eq_ok, result_eq_ok_iff]
  simp only [eq_comm (a := next)]

theorem acceptReply_leads (accepted : attempt.acceptReply functions frame = .ok next) :
    attempt.stage.Leads next.stage := by
  cases stage : attempt.stage with
  | init =>
      obtain ⟨_, _, _, rfl⟩ := (acceptReply_init stage).mp accepted
      exact .checked
  | clientFirstSent =>
      obtain ⟨_, _, _, _, _, _, rfl⟩ := (acceptReply_clientFirstSent stage).mp accepted
      exact .challenged
  | clientFinalSent =>
      obtain ⟨_, _, _, _, _, rfl⟩ := (acceptReply_clientFinalSent stage).mp accepted
      exact .authenticated
  | _ =>
      rw [acceptReply, stage] at accepted
      cases accepted

theorem outgoing_leads {message : ByteArray}
    (sends : attempt.outgoing functions = .ok (some (message, next))) :
    attempt.stage.Leads next.stage ∧ next.stage ≠ .authenticated := by
  cases stage : attempt.stage with
  | versionChecked =>
      simp only [outgoing, stage, pure_eq_ok, Option.some.injEq, Prod.mk.injEq] at sends
      obtain ⟨_, rfl⟩ := sends
      exact ⟨.asked, Stage.noConfusion⟩
  | serverFirstReceived =>
      simp only [outgoing, stage, bind_eq_ok, pure_eq_ok, Option.some.injEq, Prod.mk.injEq] at sends
      obtain ⟨_, _, _, rfl⟩ := sends
      exact ⟨.proved, Stage.noConfusion⟩
  | _ =>
      rw [outgoing, stage] at sends
      cases sends

end Attempt

end Handshake

end QueryDriver
