import SerialPanel.Session
import SerialPanel.Stream
import SerialPanel.Inboxes
import SerialPanel.FixedPoint
import SerialPanel.Instruction.Decode
import SerialPanel.Mode.Written
import SerialPanel.Settings.Written
import SerialPanel.Proofs.Vocabulary
import SerialPanel.Proofs.Attempt
import SerialPanel.Proofs.Delivery
import SerialPanel.Proofs.Arrival
import SerialPanel.Proofs.Framing
import SerialPanel.Proofs.Lifecycle
import SerialPanel.Proofs.Startup
import SerialPanel.Proofs.Accounting
import SerialPanel.Proofs.Collecting
import SerialPanel.Proofs.Isolation
import SerialPanel.Proofs.Truncation
import SerialPanel.Proofs.Exhaustion
import SerialPanel.Proofs.Walk
import SerialPanel.Proofs.Outline
import SerialPanel.Proofs.Disc
import SerialPanel.Proofs.Extent
import SerialPanel.Proofs.SignedNumber
import SerialPanel.Proofs.Lettering
import SerialPanel.Proofs.Budget
import SerialPanel.Proofs.Counting
import SerialPanel.Proofs.Building
import SerialPanel.Proofs.Forwarding
