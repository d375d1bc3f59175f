import Stepwise.Call.Printer
import Stepwise.Chat.Transcript
import Stepwise.Main
import Stepwise.Rehearsal.Complaint
import Stepwise.Rehearsal.Script
import Stepwise.Proofs.ConversationHistory
import Stepwise.Proofs.InertPlugins
import Stepwise.Proofs.RegistrationHistory
import Stepwise.Proofs.WrittenCalls
import Stepwise.Proofs.CallReading
import Stepwise.Proofs.JsonFaults
import Stepwise.Proofs.OversizedReplies
import Stepwise.Proofs.EngineAssembly
import Stepwise.Proofs.HookProtocol
import Stepwise.Proofs.FileCalls
import Stepwise.Proofs.SessionLaw
import Stepwise.Proofs.WholeExtensions
import Stepwise.Proofs.CanonicalCalls
import Stepwise.Proofs.FencedReplies
import Stepwise.Proofs.PlanItems
import Stepwise.Proofs.Transcripts
import Stepwise.Proofs.AlikeSteps
import Stepwise.Proofs.WrappedCode
import Stepwise.Proofs.RecursiveRemoval
import Stepwise.Proofs.FailedWrites
