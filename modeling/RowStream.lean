import RowStream.Main
import RowStream.Screen.Draw
import RowStream.Session.Background
import RowStream.Proofs.Body
import RowStream.Proofs.Decoder
import RowStream.Proofs.Pulling
import RowStream.Proofs.Feeding
import RowStream.Proofs.WholeBody
import RowStream.Proofs.Lifecycle
import RowStream.Proofs.EventFold
import RowStream.Proofs.Accounting
import RowStream.Proofs.Contents
import RowStream.Proofs.Headings
import RowStream.Proofs.QueryStream
import RowStream.Proofs.Draining
import RowStream.Proofs.Polling
import RowStream.Proofs.Operating
import RowStream.Proofs.Holding
import RowStream.Proofs.Schedule
import RowStream.Proofs.Numbering
import RowStream.Proofs.Following
import RowStream.Proofs.Display
import RowStream.Proofs.Isolation
import RowStream.Proofs.QueryEnding
import RowStream.Proofs.Cutting
import RowStream.Proofs.Verdict
import RowStream.Proofs.Judging
import RowStream.Proofs.Printing
import RowStream.Proofs.Headless
import RowStream.Proofs.Agreement
import RowStream.Proofs.Calling
import RowStream.Proofs.Redrawing
import RowStream.Proofs.Scanning
import RowStream.Proofs.Quoting
import RowStream.Proofs.Literals
import RowStream.Proofs.Rounding
import RowStream.Proofs.Doubles
import RowStream.Proofs.Norming
import RowStream.Proofs.Fields
import RowStream.Proofs.Messages
import RowStream.Proofs.RoundTrip
import RowStream.Proofs.Ledger
import RowStream.Proofs.Noise
import RowStream.Proofs.Silencing
import RowStream.Proofs.Addressing
import RowStream.Proofs.Grammar
import RowStream.Proofs.Magnitude
import RowStream.Proofs.Nesting
import RowStream.Proofs.Integral
import RowStream.Proofs.Scrolling
import RowStream.Proofs.Paging
import RowStream.Proofs.Composing
import RowStream.Proofs.Tabulating
import RowStream.Proofs.Configuring
import RowStream.Proofs.Logging
import RowStream.Proofs.Endpoints
import RowStream.Proofs.Clipping
import RowStream.Proofs.Explaining
import RowStream.Proofs.Resuming
