import QueryDriver.Proofs.Handshake.Replies
import QueryDriver.Scram.Calls

/-!
A client under calls in any order. A call either fails and changes nothing or does the one thing it
is for, so what the calls returned tells what the client has become: its transcript, the
server-first message in force, and whether it has proved the password.
-/

namespace QueryDriver.Scram

open Hash

variable {functions : Functions}

namespace Exchange

theorem handleServerFirst_apply (client : Client) (message : String) :
    handleServerFirst message client =
      match ServerFirst.read client.nonce message with
      | .ok first => (.ok first,
          { client with
            transcript := client.transcript ++ "," ++ message
            serverFirst := some first })
      | .error error => (.error error, client) := by
  rw [handleServerFirst, Computation.bind_apply]
  change (MonadExcept.ofExcept (ServerFirst.read client.nonce message) >>= _ : Exchange _)
    client = _
  rw [Computation.bind_apply]
  cases ServerFirst.read client.nonce message <;> rfl

theorem makeFinal_apply (client : Client) :
    makeFinal functions client =
      match client.makeFinal functions with
      | .ok (next, message) => (.ok message, next)
      | .error error => (.error error, client) := by
  obtain ⟨username, password, nonce, transcript, serverFirst, serverKey⟩ := client
  cases serverFirst <;> rfl

theorem verifyServerFinal_apply (client : Client) (message : String) :
    verifyServerFinal functions message client =
      (client.verifyServerFinal functions message, client) := by
  rw [verifyServerFinal, Computation.bind_apply]
  change (MonadExcept.ofExcept (client.verifyServerFinal functions message) : Exchange _)
    client = _
  cases client.verifyServerFinal functions message <;> rfl

end Exchange

theorem Client.isSome_serverKey {client : Client} {message : String}
    (verified : client.verifyServerFinal functions message = .ok ()) :
    client.serverKey.isSome := by
  cases key : client.serverKey with
  | some key => rfl
  | none =>
      rw [verifyServerFinal, key] at verified
      cases verified

namespace Call

theorem perform_serverFirst (functions : Functions) (message : String) (client : Client) :
    (serverFirst message).perform functions client =
      match ServerFirst.read client.nonce message with
      | .ok first => (.ok (.challenge first),
          { client with
            transcript := client.transcript ++ "," ++ message
            serverFirst := some first })
      | .error error => (.error error, client) := by
  rw [perform, Computation.bind_apply, Exchange.handleServerFirst_apply]
  cases ServerFirst.read client.nonce message <;> rfl

theorem perform_clientFinal (functions : Functions) (client : Client) :
    clientFinal.perform functions client =
      match client.makeFinal functions with
      | .ok (next, message) => (.ok (.final message), next)
      | .error error => (.error error, client) := by
  rw [perform, Computation.bind_apply, Exchange.makeFinal_apply]
  cases client.makeFinal functions <;> rfl

theorem perform_serverFinal (functions : Functions) (message : String) (client : Client) :
    (serverFinal message).perform functions client =
      ((client.verifyServerFinal functions message).map fun _ => .verified, client) := by
  rw [perform, Computation.bind_apply, Exchange.verifyServerFinal_apply]
  cases client.verifyServerFinal functions message <;> rfl

/-- All that a call can do: it fails and changes nothing, or it does what it is for. -/
theorem perform_cases (functions : Functions) (call : Call) (client : Client) :
    (∃ error, call.perform functions client = (.error error, client)) ∨
    (∃ message first, call = .serverFirst message ∧
      ServerFirst.read client.nonce message = .ok first ∧
      call.perform functions client = (.ok (.challenge first),
        { client with
          transcript := client.transcript ++ "," ++ message
          serverFirst := some first })) ∨
    (∃ first key text, call = .clientFinal ∧ client.serverFirst = some first ∧
      call.perform functions client = (.ok (.final text),
        { client with
          transcript := client.transcript ++ "," ++ Client.finalBare first.nonce
          serverKey := some key })) ∨
    (∃ message, call = .serverFinal message ∧ client.serverKey.isSome ∧
      call.perform functions client = (.ok .verified, client)) := by
  cases call with
  | serverFirst message =>
      rw [perform_serverFirst]
      cases read : ServerFirst.read client.nonce message with
      | error error => exact .inl ⟨error, rfl⟩
      | ok first => exact .inr (.inl ⟨message, first, rfl, read, rfl⟩)
  | clientFinal =>
      rw [perform_clientFinal, Client.makeFinal]
      cases given : client.serverFirst with
      | none => exact .inl ⟨_, rfl⟩
      | some first => exact .inr (.inr (.inl ⟨first, _, _, rfl, rfl, rfl⟩))
  | serverFinal message =>
      rw [perform_serverFinal]
      cases verified : client.verifyServerFinal functions message with
      | error error => exact .inl ⟨error, rfl⟩
      | ok _ => exact .inr (.inr (.inr ⟨message, rfl, Client.isSome_serverKey verified, rfl⟩))

theorem perform_unchanged {call : Call} {client : Client}
    (still : (∃ error, (call.perform functions client).1 = .error error) ∨
      ∃ message, call = .serverFinal message) :
    (call.perform functions client).2 = client := by
  rcases call.perform_cases functions client with ⟨error, performed⟩ |
    ⟨message, first, rfl, read, performed⟩ | ⟨first, key, text, rfl, given, performed⟩ |
    ⟨message, rfl, known, performed⟩
  all_goals rw [performed] at still ⊢
  all_goals simp at still

theorem perform_clientFinal_isOk (functions : Functions) (client : Client) :
    (∃ answer, (clientFinal.perform functions client).1 = .ok answer) ↔
      client.serverFirst.isSome := by
  rw [perform_clientFinal, Client.makeFinal]
  cases client.serverFirst <;> simp

theorem perform_serverFinal_isOk {client : Client} {message : String} {answer : Answer}
    (verified : ((serverFinal message).perform functions client).1 = .ok answer) :
    client.serverKey.isSome := by
  rw [perform_serverFinal] at verified
  cases checked : client.verifyServerFinal functions message with
  | error error =>
      rw [checked] at verified
      cases verified
  | ok _ => exact Client.isSome_serverKey checked

end Call

namespace Called

/-- The server-first message that a call accepted. -/
def accepted? : Called → Option ServerFirst
  | ⟨.serverFirst _, .ok (.challenge first)⟩ => some first
  | _ => none

/-- A call that made a client-final message. -/
def Proves (called : Called) : Prop :=
  ∃ message, called = ⟨.clientFinal, .ok (.final message)⟩

/-- What a call put behind the transcript while a server-first message was in force. -/
def said (inForce : Option ServerFirst) : Called → String
  | ⟨.serverFirst message, .ok _⟩ => "," ++ message
  | ⟨.clientFinal, .ok _⟩ => inForce.elim "" fun first => ",c=biws,r=" ++ first.nonce
  | _ => ""

/-- What calls in turn put behind the transcript; each accepted server-first message is in force
until the next one. -/
def saidAll (inForce : Option ServerFirst) : List Called → String
  | [] => ""
  | called :: rest => called.said inForce ++ saidAll (called.accepted?.or inForce) rest

end Called

theorem Client.finalBare_eq (nonce : String) : "," ++ finalBare nonce = ",c=biws,r=" ++ nonce := by
  rw [finalBare, ← String.append_assoc]
  rfl

/-- What a client has become after calls, told from what they returned. -/
structure Client.Follows (client : Client) (history : List Called) (after : Client) : Prop where
  username : after.username = client.username
  password : after.password = client.password
  nonce : after.nonce = client.nonce
  transcript : after.transcript =
    client.transcript ++ Called.saidAll client.serverFirst history
  serverFirst : after.serverFirst =
    (history.filterMap Called.accepted?).getLast?.or client.serverFirst
  serverKey : after.serverKey.isSome ↔ client.serverKey.isSome ∨ ∃ called ∈ history, called.Proves
  accepted : ∀ called ∈ history, ∀ first, called.accepted? = some first →
    ∃ message, called.call = .serverFirst message ∧
      ServerFirst.read client.nonce message = .ok first

namespace Client.Follows

variable {client next after : Client} {called : Called} {rest : List Called}

theorem nil (client : Client) : client.Follows [] client where
  username := rfl
  password := rfl
  nonce := rfl
  transcript := (String.append_empty ..).symm
  serverFirst := rfl
  serverKey := by simp
  accepted := nofun

theorem single {transcript : String} {serverFirst : Option ServerFirst} {serverKey : Option Bytes}
    (said : transcript = client.transcript ++ called.said client.serverFirst)
    (inForce : serverFirst = called.accepted?.or client.serverFirst)
    (known : serverKey.isSome ↔ client.serverKey.isSome ∨ called.Proves)
    (read : ∀ first, called.accepted? = some first →
      ∃ message, called.call = .serverFirst message ∧
        ServerFirst.read client.nonce message = .ok first) :
    client.Follows [called] { client with transcript, serverFirst, serverKey } where
  username := rfl
  password := rfl
  nonce := rfl
  transcript := by rw [said, Called.saidAll, Called.saidAll, String.append_empty]
  serverFirst := by cases accepted : called.accepted? <;> simp [inForce, accepted]
  serverKey := by simpa using known
  accepted := by simpa using read

theorem cons (first : client.Follows [called] next) (others : next.Follows rest after) :
    client.Follows (called :: rest) after where
  username := others.username.trans first.username
  password := others.password.trans first.password
  nonce := others.nonce.trans first.nonce
  transcript := by
    -- the rest begins with the message in force that the first call has left
    rw [others.transcript, first.transcript, Called.saidAll, Called.saidAll, Called.saidAll,
      String.append_empty, String.append_assoc, first.serverFirst]
    cases accepted : called.accepted? <;> simp [accepted]
  serverFirst := by
    rw [others.serverFirst, first.serverFirst, ← Option.or_assoc]
    cases accepted : called.accepted? <;> simp [accepted, List.getLast?_cons]
  serverKey := by
    rw [others.serverKey, first.serverKey]
    simp [or_assoc]
  accepted := by
    intro other member
    rcases List.mem_cons.mp member with rfl | behind
    · exact first.accepted _ List.mem_cons_self
    · rw [← first.nonce]
      exact others.accepted other behind

/-- The message in force was accepted by one of the calls. -/
theorem exists_accepted {first : ServerFirst} {history : List Called}
    (follows : client.Follows history after) (fresh : client.serverFirst = none)
    (inForce : after.serverFirst = some first) :
    ∃ called ∈ history, called.accepted? = some first := by
  rw [follows.serverFirst, fresh, Option.or_none] at inForce
  exact List.mem_filterMap.mp (List.mem_of_getLast? inForce)

theorem isSome_serverFirst {history : List Called} (follows : client.Follows history after)
    (fresh : client.serverFirst = none) :
    after.serverFirst.isSome ↔ ∃ called ∈ history, called.accepted?.isSome := by
  rw [follows.serverFirst, fresh, Option.or_none, List.getLast?_isSome, ne_eq,
    List.filterMap_eq_nil_iff]
  simp [Option.ne_none_iff_isSome]

end Client.Follows

/-- What one call returned tells what it has changed. -/
theorem Call.perform_follows (functions : Functions) (call : Call) (client : Client) :
    client.Follows [⟨call, (call.perform functions client).1⟩]
      (call.perform functions client).2 := by
  rcases call.perform_cases functions client with ⟨error, performed⟩ |
    ⟨message, first, rfl, read, performed⟩ | ⟨first, key, text, rfl, given, performed⟩ |
    ⟨message, rfl, known, performed⟩
  all_goals rw [performed]
  · have silent : Called.said client.serverFirst ⟨call, .error error⟩ = "" := by
      cases call <;> rfl
    have plain : Called.accepted? ⟨call, .error error⟩ = none := by cases call <;> rfl
    exact .single (by simp [silent]) (by simp [plain]) (by simp [Called.Proves])
      (by simp [plain])
  · exact .single (String.append_assoc ..) rfl (by simp [Called.Proves])
      (by simpa [Called.accepted?] using read)
  · have said : client.transcript ++ "," ++ Client.finalBare first.nonce =
        client.transcript ++ Called.said client.serverFirst ⟨.clientFinal, .ok (.final text)⟩ := by
      rw [String.append_assoc, Client.finalBare_eq, given]
      rfl
    exact .single said rfl (by simp [Called.Proves]) nofun
  · exact .single (String.append_empty ..).symm rfl (by simp [Called.Proves]) nofun

namespace Client

theorem performAll_follows (functions : Functions) (client : Client) (calls : List Call) :
    client.Follows (client.performAll functions calls).1 (client.performAll functions calls).2 := by
  induction calls generalizing client with
  | nil => exact .nil client
  | cons call rest ih => exact (call.perform_follows functions client).cons (ih _)

theorem performAll_calls (functions : Functions) (client : Client) (calls : List Call) :
    (client.performAll functions calls).1.map Called.call = calls := by
  induction calls generalizing client with
  | nil => rfl
  | cons call rest ih => exact congrArg (call :: ·) (ih _)

/-- Whatever calls were made, what they returned tells the whole state of the client, and what the
next call may do. -/
theorem consistent_under_calls (functions : Functions) (username password nonce : String)
    (calls : List Call) :
    let history := ((new username password nonce).performAll functions calls).1
    let client := ((new username password nonce).performAll functions calls).2
    history.map Called.call = calls ∧
    client.username = username ∧ client.password = password ∧ client.nonce = nonce ∧
    client.transcript =
      "n=" ++ escapeUsername username ++ ",r=" ++ nonce ++ Called.saidAll none history ∧
    client.serverFirst = (history.filterMap Called.accepted?).getLast? ∧
    (∀ called ∈ history, ∀ first, called.accepted? = some first →
      ∃ message, called.call = .serverFirst message ∧
        ServerFirst.read nonce message = .ok first) ∧
    (∀ first, client.serverFirst = some first →
      1 ≤ first.iterations ∧ nonce.toList <+: first.nonce.toList) ∧
    (∀ call : Call, ((∃ error, (call.perform functions client).1 = .error error) ∨
        ∃ message, call = .serverFinal message) →
      (call.perform functions client).2 = client) ∧
    ((∃ answer, (Call.clientFinal.perform functions client).1 = .ok answer) ↔
      ∃ called ∈ history, called.accepted?.isSome) ∧
    ∀ message answer, ((Call.serverFinal message).perform functions client).1 = .ok answer →
      ∃ called ∈ history, called.Proves := by
  intro history client
  have follows := performAll_follows functions (new username password nonce) calls
  refine ⟨performAll_calls functions _ calls, follows.username, follows.password, follows.nonce,
    follows.transcript, follows.serverFirst.trans (Option.or_none ..), follows.accepted, ?_,
    fun call => Call.perform_unchanged, ?_, ?_⟩
  · intro first inForce
    obtain ⟨called, member, accepted⟩ := follows.exists_accepted rfl inForce
    obtain ⟨message, _, read⟩ := follows.accepted called member first accepted
    exact ⟨read_iterations read, read_nonce read⟩
  · exact (Call.perform_clientFinal_isOk functions client).trans (follows.isSome_serverFirst rfl)
  · intro message answer verified
    -- a new client has no key, so that one of the calls has made it
    have known := follows.serverKey.mp (Call.perform_serverFinal_isOk verified)
    exact known.resolve_left nofun

example :
    ((new "user" "pencil" "abc").performAll standard
      [.clientFinal, .serverFirst "r=abcd,s=,i=1", .serverFirst "r=abcd,s=AQ==,i=1", .clientFinal,
        .serverFinal "v=", .serverFirst "x=y,r=abc,s=AQ==,i=+2", .clientFinal]).2.transcript =
      "n=user,r=abc,r=abcd,s=AQ==,i=1,c=biws,r=abcd,x=y,r=abc,s=AQ==,i=+2,c=biws,r=abc" := by
  decide +kernel

end Client

end QueryDriver.Scram
