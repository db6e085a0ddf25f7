import KeyPrecedence.Key.Shortcut
import KeyPrecedence.Script.LoggerSession
import KeyPrecedence.Script.Pairs
import KeyPrecedence.Script.Session
import KeyPrecedence.Proofs.Key.Shortcut
import KeyPrecedence.Proofs.Dispatch.Scene
import KeyPrecedence.Proofs.Dispatch.Chronicle
import KeyPrecedence.Proofs.Dispatch.Execution
import KeyPrecedence.Proofs.Dispatch.Stroke
import KeyPrecedence.Proofs.Dispatch.SystemTier
import KeyPrecedence.Proofs.Command.Conflict
import KeyPrecedence.Proofs.Command.Unambiguous
import KeyPrecedence.Proofs.Dispatch.Absorption
import KeyPrecedence.Proofs.Dispatch.Arming
import KeyPrecedence.Proofs.Dispatch.Handover
import KeyPrecedence.Proofs.Dispatch.Forfeiture
import KeyPrecedence.Proofs.Dispatch.Failure
import KeyPrecedence.Proofs.Toast.Scene
import KeyPrecedence.Proofs.Setting.InStep
import KeyPrecedence.Proofs.Command.Edit
import KeyPrecedence.Proofs.Command.Plain
import KeyPrecedence.Proofs.Command.Refinement
import KeyPrecedence.Proofs.Command.Mirror
import KeyPrecedence.Proofs.Command.Fraction
import KeyPrecedence.Proofs.Number.Rounding
import KeyPrecedence.Proofs.Toast.Moments
import KeyPrecedence.Proofs.Toast.Timeline
import KeyPrecedence.Proofs.Toast.Lifetime
import KeyPrecedence.Proofs.Toast.Persistence
import KeyPrecedence.Proofs.Logging.Switching
import KeyPrecedence.Proofs.Command.Rebinding
import KeyPrecedence.Proofs.Dispatch.Typing
import KeyPrecedence.Proofs.Desktop.Level
import KeyPrecedence.Proofs.Toast.Delivery
import KeyPrecedence.Proofs.Setting.Ledger
import KeyPrecedence.Proofs.Logging.Threshold
import KeyPrecedence.Proofs.Desktop.Feedback
import KeyPrecedence.Proofs.Command.Priority
import KeyPrecedence.Proofs.Command.Report
import KeyPrecedence.Proofs.Dispatch.Agenda
import KeyPrecedence.Proofs.Installation.Scene
import KeyPrecedence.Proofs.Installation.Lifecycle
