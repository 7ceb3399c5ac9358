import QueryDriver.Expression
import QueryDriver.Inspection
import QueryDriver.Proofs.Base64
import QueryDriver.Proofs.Build
import QueryDriver.Proofs.Chains
import QueryDriver.Proofs.Coercion.Documents
import QueryDriver.Proofs.Coercion.Hygiene
import QueryDriver.Proofs.Coercion.Nesting
import QueryDriver.Proofs.Coercion.Objects
import QueryDriver.Proofs.Coercion.Programs
import QueryDriver.Proofs.Computation
import QueryDriver.Proofs.Double
import QueryDriver.Proofs.Envelope
import QueryDriver.Proofs.Frame.Wire
import QueryDriver.Proofs.Handshake.Disclosure
import QueryDriver.Proofs.Handshake.Frame
import QueryDriver.Proofs.Handshake.Framing
import QueryDriver.Proofs.Handshake.Progress
import QueryDriver.Proofs.Handshake.Reading
import QueryDriver.Proofs.Handshake.Secrecy
import QueryDriver.Proofs.Handshake.Settling
import QueryDriver.Proofs.Handshake.Success
import QueryDriver.Proofs.Hash
import QueryDriver.Proofs.Json.Document
import QueryDriver.Proofs.Json.Numeral
import QueryDriver.Proofs.Json.Quoted
import QueryDriver.Proofs.Json.Reader
import QueryDriver.Proofs.Json.Record
import QueryDriver.Proofs.Json.Writer
import QueryDriver.Proofs.Response
import QueryDriver.Proofs.Scram.Agreement
import QueryDriver.Proofs.Scram.Attributes
import QueryDriver.Proofs.Scram.Calls
import QueryDriver.Proofs.Scram.Challenge
import QueryDriver.Proofs.Scram.Count
import QueryDriver.Proofs.Scram.Username
import QueryDriver.Proofs.Session.Clock
import QueryDriver.Proofs.Session.Closing
import QueryDriver.Proofs.Session.Fatality
import QueryDriver.Proofs.Session.Handover
import QueryDriver.Proofs.Session.Isolation
import QueryDriver.Proofs.Session.Outcomes
import QueryDriver.Proofs.Session.Oversize
import QueryDriver.Proofs.Session.Pending
import QueryDriver.Proofs.Session.Reading
import QueryDriver.Proofs.Session.Writing
import QueryDriver.Proofs.Start
import QueryDriver.Proofs.Term.Literals
import QueryDriver.Scram.Calls
import QueryDriver.Simulation.HandshakeScript
import QueryDriver.Simulation.SessionScript
import QueryDriver.Start
import QueryDriver.Term.Wire
