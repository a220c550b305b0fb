import ParamGate.ErrorObject
import ParamGate.Exports
import ParamGate.Journal.Logging
import ParamGate.Proofs.Run
import ParamGate.Proofs.Supplied
import ParamGate.Proofs.Written
import ParamGate.Script
import ParamGate.Session
import ParamGate.Value.Making
import ParamGate.Value.Tagging
import ParamGate.Proofs.Verdict
import ParamGate.Proofs.Acceptance
import ParamGate.Proofs.Frame
import ParamGate.Proofs.PhaseTwo
import ParamGate.Proofs.Ladder
import ParamGate.Proofs.Tampering
import ParamGate.Proofs.Formula
import ParamGate.Proofs.Ending
import ParamGate.Proofs.Order
import ParamGate.Proofs.Alike
import ParamGate.Proofs.Timeline
import ParamGate.Proofs.Readable
import ParamGate.Proofs.Passing
import ParamGate.Proofs.Screening
import ParamGate.Proofs.Callbacks
import ParamGate.Proofs.Defaults
import ParamGate.Proofs.Loosening
import ParamGate.Proofs.Presence
import ParamGate.Proofs.Polarity
import ParamGate.Proofs.Construction
import ParamGate.Proofs.Disclosure
import ParamGate.Proofs.Negation
import ParamGate.Proofs.Conjunction
import ParamGate.Proofs.Raising
import ParamGate.Proofs.Misreading
import ParamGate.Proofs.Precedence
import ParamGate.Proofs.Reordering
import ParamGate.Proofs.SpecOrder
import ParamGate.Proofs.Unlisted
import ParamGate.Proofs.Revalidation
import ParamGate.Proofs.Decoding
import ParamGate.Proofs.Description
import ParamGate.Proofs.Malformed
import ParamGate.Proofs.Spelling
import ParamGate.Journal.Program
import ParamGate.Proofs.Configuring
import ParamGate.Proofs.Sources
