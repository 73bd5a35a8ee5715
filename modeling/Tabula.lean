import Tabula.Bus
import Tabula.Main
import Tabula.Proofs.History.Freshness
import Tabula.Proofs.History.Timeline
import Tabula.Proofs.Pager.Display
import Tabula.Proofs.Pager.Range
import Tabula.Proofs.Query.Partition
import Tabula.Proofs.Session.Deletion
import Tabula.Proofs.Session.Derived
import Tabula.Proofs.Session.Display
import Tabula.Proofs.Session.Failure
import Tabula.Proofs.Session.Filtering
import Tabula.Proofs.Session.Gate
import Tabula.Proofs.Session.Holdings
import Tabula.Proofs.Session.Lockstep
import Tabula.Proofs.Session.Mirror
import Tabula.Proofs.Session.Numbering
import Tabula.Proofs.Session.Provenance
import Tabula.Proofs.Session.Sharing
import Tabula.Proofs.Store.Lifetime
import Tabula.Service.Json
import Tabula.Proofs.History.Refusals
import Tabula.Proofs.Session.Notices
import Tabula.Proofs.Bus.Nesting
import Tabula.Proofs.Calendar.Stamps
import Tabula.Proofs.CommandLine
import Tabula.Proofs.History.TakeOver
import Tabula.Proofs.Cell.Order
import Tabula.Proofs.History.Removal
import Tabula.Proofs.Cell.Numbers
import Tabula.Proofs.Column.Kind
import Tabula.Proofs.Session.Looks
import Tabula.Proofs.Sort.Clicks
import Tabula.Proofs.Sort.Stable
import Tabula.Proofs.Query.Numbers
import Tabula.Proofs.Search
import Tabula.Proofs.Statistics.Sampling
import Tabula.Proofs.Csv.Placeholders
import Tabula.Proofs.Page.Words
import Tabula.Proofs.Pager.Words
import Tabula.Proofs.Cell.Readings
