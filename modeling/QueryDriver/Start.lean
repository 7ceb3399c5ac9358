import QueryDriver.Builder

/-!
START queries: a term and the options of its run.
-/

namespace QueryDriver

inductive QueryType
  | start
  | continue
  | stop
  | noreplyWait
  | serverInfo
  deriving DecidableEq

def QueryType.code : QueryType → Nat
  | .start => 1
  | .continue => 2
  | .stop => 3
  | .noreplyWait => 4
  | .serverInfo => 5

inductive Durability
  | hard
  | soft
  deriving DecidableEq

def Durability.name : Durability → String
  | .hard => "hard"
  | .soft => "soft"

inductive ReadMode
  | single
  | majority
  | outdated
  deriving DecidableEq

def ReadMode.name : ReadMode → String
  | .single => "single"
  | .majority => "majority"
  | .outdated => "outdated"

structure RunOptions where
  db : Option String := none
  durability : Option Durability := none
  readMode : Option ReadMode := none
  profile : Option Bool := none
  deriving DecidableEq

namespace RunOptions

def optionTerm (key : String) (term : Option (Build Term)) : Build (Members Json) := do
  match term with
  | some term => return [(key, (← term).toWire)]
  | none => return []

/-- The options object. Each value is compiled like an operand; a database becomes a DB term. -/
def toWire (options : RunOptions) : Build (Members Json) := do
  let db ← optionTerm "db" (options.db.map fun name => Starter.db.build [.ofString name])
  let durability ← optionTerm "durability"
    (options.durability.map fun durability => expr (.ofString durability.name))
  let readMode ← optionTerm "read_mode"
    (options.readMode.map fun mode => expr (.ofString mode.name))
  let profile ← optionTerm "profile" (options.profile.map fun profile => expr (.ofBool profile))
  return Members.ofPairs (db ++ durability ++ readMode ++ profile)

end RunOptions

namespace Start

def message (term : Json) (options : Members Json) : Json :=
  .array [.int QueryType.start.code, term, .object options]

def payload (term : Term) (options : RunOptions) : Build ByteArray :=
  return (message term.toWire (← options.toWire)).bytes

end Start

end QueryDriver
