import Reckon.Main
import Reckon.Proofs.Mode.Lock
import Reckon.Proofs.Session.Steps
import Reckon.Proofs.Session.ManualSwitch
import Reckon.Proofs.Session.Conversion
import Reckon.Proofs.Session.Origin
import Reckon.Proofs.Formula.Magnitude
import Reckon.Proofs.Evaluator.Guard
import Reckon.Proofs.Formula.Calls
import Reckon.Proofs.Evaluator.Conservative
import Reckon.Proofs.Formula.Enabled
import Reckon.Proofs.History.Numbering
import Reckon.Proofs.History.Paging
import Reckon.Proofs.Session.Finished
import Reckon.Proofs.Session.Failure
import Reckon.Proofs.Service.Recording
import Reckon.Proofs.Service.Log
import Reckon.Proofs.Evaluator.Verdict
import Reckon.Proofs.Session.Interruption
import Reckon.Proofs.Tutor.Exchange
import Reckon.Proofs.History.Isolation
import Reckon.Proofs.History.Opening
import Reckon.Proofs.Session.Wrapping
import Reckon.Proofs.Formula.Screening
import Reckon.Proofs.Formula.Renaming
import Reckon.Proofs.Service.Keypad
import Reckon.Proofs.Session.Collaborators
import Reckon.Proofs.Mode.Debounce
import Reckon.Proofs.Number.Written
import Reckon.Proofs.Session.Waiting
import Reckon.Proofs.Service.Refusal
import Reckon.Proofs.Session.Reported
import Reckon.Proofs.Mode.Asking
import Reckon.Proofs.Session.Asking
import Reckon.Proofs.Service.Delivery
import Reckon.Proofs.Service.Envelope
import Reckon.Proofs.Service.Separation
import Reckon.Proofs.Formula.Nesting
import Reckon.Proofs.Formula.Gate
import Reckon.Proofs.Evaluator.Settled
import Reckon.Proofs.Formula.OpenCall
import Reckon.Proofs.Tutor.RoundTrip
import Reckon.Proofs.Session.Radix
import Reckon.Proofs.Session.Spoken
import Reckon.Proofs.Formula.Literals
import Reckon.Proofs.Graph.Sampling
import Reckon.Proofs.Number.Nearest
import Reckon.Proofs.Number.Shortest
import Reckon.Proofs.Number.Places
import Reckon.Proofs.Number.Displayed
import Reckon.Proofs.Session.Reuse
