import OutageLedger.Command.Rehearsal
import OutageLedger.Config
import OutageLedger.Main
import OutageLedger.Store.Edit
import OutageLedger.Proofs.Import.Interleaving
import OutageLedger.Proofs.Import.Pipeline
import OutageLedger.Proofs.Import.Restart
import OutageLedger.Proofs.Import.Paging
import OutageLedger.Proofs.Import.Fetching
import OutageLedger.Proofs.Import.Alike
import OutageLedger.Proofs.Import.Archive
import OutageLedger.Proofs.Import.Tally
import OutageLedger.Proofs.Import.Abort
import OutageLedger.Proofs.Import.Preview
import OutageLedger.Proofs.Import.TeamFilter
import OutageLedger.Proofs.Store.Retention
import OutageLedger.Proofs.Alert.ReadBack
import OutageLedger.Proofs.Import.Landing
import OutageLedger.Proofs.Import.Compensation
import OutageLedger.Proofs.Instant.Order
import OutageLedger.Proofs.Store.OnRecord
import OutageLedger.Proofs.Store.Listing
import OutageLedger.Proofs.Text.Percent
import OutageLedger.Proofs.Url.Segment
import OutageLedger.Proofs.Url.Reader
import OutageLedger.Proofs.Provider.Item
import OutageLedger.Proofs.Text.Form
import OutageLedger.Proofs.Url.Query
import OutageLedger.Proofs.Provider.ListRequest
import OutageLedger.Proofs.Provider.Window
import OutageLedger.Proofs.Json.Layout
import OutageLedger.Proofs.Json.Edit
import OutageLedger.Proofs.Json.Texts
import OutageLedger.Proofs.Provider.Bodies
import OutageLedger.Proofs.CommandLine.Times
import OutageLedger.Proofs.Config.Precedence
import OutageLedger.Proofs.CommandLine.Teams
import OutageLedger.Proofs.Command.Order
