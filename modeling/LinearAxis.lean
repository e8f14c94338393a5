import LinearAxis.Kit
import LinearAxis.Proofs.Driver.Kick
import LinearAxis.Proofs.Driver.Odometer
import LinearAxis.Proofs.PassThrough
import LinearAxis.Reading.Machine
import LinearAxis.Proofs.Driver.Clean
import LinearAxis.Proofs.Driver.Lines
import LinearAxis.Proofs.Driver.Protocol
import LinearAxis.Proofs.Driver.Edge
import LinearAxis.Proofs.Ledger
import LinearAxis.Proofs.Arrival
import LinearAxis.Proofs.LookAhead
import LinearAxis.Proofs.Relocation
import LinearAxis.Proofs.Symmetry
import LinearAxis.Proofs.Reading.Acceptance
import LinearAxis.Proofs.Driver.Count
import LinearAxis.Proofs.ComingToRest
import LinearAxis.Proofs.Driver.Held
import LinearAxis.Proofs.PassCount
import LinearAxis.Proofs.Displacement
import LinearAxis.Proofs.GivingUp
import LinearAxis.Proofs.BrakingProgress
import LinearAxis.Proofs.SpeedLimit
import LinearAxis.Proofs.Driver.Fault
import LinearAxis.Proofs.Driver.Blind
import LinearAxis.Proofs.Driver.Enqueue
import LinearAxis.Proofs.Driver.Tally
import LinearAxis.Proofs.Driver.BlockingRun
import LinearAxis.Proofs.Truncation
import LinearAxis.Proofs.Listing
import LinearAxis.Proofs.Driver.Retry
import LinearAxis.Proofs.Reading.Forms
