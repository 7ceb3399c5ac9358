import QueryDriver.Frame.Stream
import QueryDriver.Session.Results
import QueryDriver.Session.Timed
import QueryDriver.Value

/-!
Sessions run by a script: steps of callers and of the server, one after the other. After each step
everything that can happen without another step happens, and what came of it is observed.
-/

namespace QueryDriver.Simulation

open Session

/-- What a caller makes of the payload of its reply. -/
inductive Reading
  | payload
  | values
  | numbers
  | texts

inductive Step
  | dispatch (id : String) (payload : ByteArray) (timeout : Option Duration)
  /-- Builds a query, sends it and reads its result. -/
  | run (id : String) (payload : Build ByteArray) (reading : Reading)
  | abandon (id : String)
  | reply (token : UInt64) (payload : ByteArray)
  | raw (bytes : ByteArray)
  | serverClose
  | close
  | drop
  | advance (span : Duration)

inductive Outcome
  /-- The query could not be built, and nothing was sent. -/
  | unbuilt (error : DriverError)
  | failed (error : ClientError)
  | response (payload : ByteArray)
  | values (values : List Json)

def Outcome.ofValues (result : Except ClientError (List Json)) : Outcome :=
  match result with
  | .ok found => .values found
  | .error error => .failed error

def Reading.outcome (reading : Reading) (payload : ByteArray) : Outcome :=
  match reading with
  | .payload => .response payload
  | .values => .ofValues (Session.values payload)
  | .numbers =>
      .ofValues ((valuesAs uint64? payload).map fun numbers =>
        numbers.map fun number => Json.int number.toNat)
  | .texts => .ofValues ((valuesAs Session.text? payload).map fun texts => texts.map .string)

/-- A request that was made. One that was over at once has no token. -/
structure Request where
  token : Option UInt64
  id : String
  reading : Reading

/-- A session and its server, in the middle of a script. -/
structure SessionRun where
  timed : Timed
  /-- Whether the caller still has the session. Requests under way keep it in use without one. -/
  held : Bool
  nextId : Nat
  /-- The latest first. -/
  requests : List Request
  serverGone : Bool
  /-- Whether the server has seen the end of what the session writes. -/
  sawEnd : Bool

structure Observation where
  /-- The state of the session, as long as the caller has it. -/
  session : Option Session
  closeReturned : Bool
  received : List Frame
  sawEnd : Bool
  done : List (String × Outcome)

namespace SessionRun

def start (config : Config) : SessionRun :=
  { timed := .start config (Session.start config.maxMessageSize none [])
    held := true
    nextId := 1
    requests := []
    serverGone := false
    sawEnd := false }

/-- What has come of a step so far. -/
structure News where
  received : List Frame
  /-- In the order in which the requests ended. -/
  done : List (String × Outcome)
  closeReturned : Bool

def News.none : News :=
  { received := []
    done := []
    closeReturned := false }

def News.finish (news : News) (id : String) (outcome : Outcome) : News :=
  { news with done := news.done ++ [(id, outcome)] }

def News.add (news : News) (done : Option (String × Outcome)) : News :=
  { news with done := news.done ++ done.toList }

/-- What the caller of a request makes of its result. -/
def outcomeFor (run : SessionRun) (token : UInt64) (result : Except ClientError ByteArray) :
    Option (String × Outcome) := do
  let request ← run.requests.find? fun request => request.token = some token
  match result with
  | .ok payload => return (request.id, request.reading.outcome payload)
  | .error error => return (request.id, .failed error)

def keep (run : SessionRun) (caller : String × Reading) (token : Option UInt64) : SessionRun :=
  { run with requests := ⟨token, caller.1, caller.2⟩ :: run.requests }

/-- Takes note of one notice; a request that is registered or refused is the given one. -/
def note (caller : Option (String × Reading)) (run : SessionRun) (news : News) :
    Notice → SessionRun × News
  | .registered token =>
      match caller with
      | some caller => (run.keep caller (some token), news)
      | none => (run, news)
  | .refused error =>
      match caller with
      | some caller => (run.keep caller none, news.finish caller.1 (.failed error))
      | none => (run, news)
  | .ended token result => (run, news.add (run.outcomeFor token result))
  | .unsent token => (run, news.add (run.outcomeFor token (.error .sessionClosed)))
  | .abandoned _ => (run, news)
  | .written frame =>
      if run.serverGone then (run, news)
      else
        let (frames, _) := Frame.parse Frame.maxPayload frame.data.toList
        (run, { news with received := news.received ++ frames })
  | .acknowledged => (run, { news with closeReturned := true })

def noteAll (caller : Option (String × Reading)) (run : SessionRun) (news : News)
    (notices : List Notice) : SessionRun × News :=
  notices.foldl (fun (run, news) notice => run.note caller news notice) (run, news)

/-- Lets the session do something and takes note of it. -/
def perform (caller : Option (String × Reading)) (run : SessionRun) (news : News)
    (action : Timed → Timed × List Notice) : SessionRun × News :=
  let (timed, notices) := action run.timed
  { run with timed }.noteAll caller news notices

def flush (run : SessionRun) (news : News) : SessionRun × News :=
  Nat.repeat (fun (run, news) => perform none run news fun timed => timed.step .transmit)
    run.timed.session.queue.length (run, news)

/-- Lets everything happen that needs no other step. -/
def settle (run : SessionRun) (news : News) : SessionRun × News :=
  let (run, news) := run.flush news
  let (run, news) := run.perform none news Timed.expireDue
  let (run, news) :=
    if run.held || !run.timed.session.waiting.isEmpty then (run, news)
    else run.perform none news fun timed => timed.step .drop
  run.perform none news fun timed => timed.step .writerEnds

def abandon (id : String) (run : SessionRun) : SessionRun × News :=
  match (run.requests.find? fun request => request.id = id).bind Request.token with
  | some token => run.perform none .none fun timed => timed.step (.abandon token)
  | none => (run, .none)

def hear (run : SessionRun) (bytes : ByteArray) : SessionRun × News :=
  if run.serverGone then (run, .none)
  else run.perform none .none fun timed => timed.step (.receive bytes.data.toList)

/-- Sends a request, if the caller still has the session. -/
def send (caller : String × Reading) (timeout : Option Duration) (run : SessionRun)
    (payload : ByteArray) : SessionRun × News :=
  if run.held then
    run.perform (some caller) .none fun timed => timed.dispatch payload timeout
  else (run, .none)

def runQuery (caller : String × Reading) (run : SessionRun) (payload : Build ByteArray) :
    SessionRun × News :=
  if run.held then
    let (result, nextId) := payload.run.run run.nextId
    let run := { run with nextId }
    match result with
    | .ok payload => run.send caller none payload
    | .error error => (run.keep caller none, News.none.finish caller.1 (.unbuilt error))
  else (run, .none)

def act (run : SessionRun) : Step → SessionRun × News
  | .dispatch id payload timeout => run.send (id, .payload) timeout payload
  | .run id payload reading => run.runQuery (id, reading) payload
  | .abandon id => run.abandon id
  | .reply token payload =>
      match Frame.encode ⟨token, payload⟩ with
      | .ok frame => run.hear frame
      | .error _ => (run, .none)
  | .raw bytes => run.hear bytes
  | .serverClose =>
      if run.serverGone then (run, .none)
      else { run with serverGone := true }.perform none .none fun timed => timed.step .endOfStream
  | .close =>
      if run.held then run.perform none .none fun timed => timed.step .close
      else (run, .none)
  | .drop => ({ run with held := false }, .none)
  | .advance span => run.perform none .none fun timed => timed.advance span

/-- Takes one step and observes what came of it. The server sees that the writer has ended unless it
is gone itself. -/
def step (run : SessionRun) (step : Step) : SessionRun × Observation :=
  let (run, news) := run.act step
  let (run, news) := run.settle news
  let sawEnd := if run.serverGone then run.sawEnd else run.timed.session.writerEnded
  ({ run with sawEnd },
    { session := if run.held then some run.timed.session else none
      closeReturned := news.closeReturned
      received := news.received
      sawEnd
      done := news.done })

end SessionRun

def play (config : Config) (steps : List Step) : List Observation :=
  let rec playFrom (run : SessionRun) : List Step → List Observation
    | [] => []
    | step :: rest =>
        let (run, observation) := run.step step
        observation :: playFrom run rest
  playFrom (.start config) steps

end QueryDriver.Simulation
