import Depot.Http.Inspection
import Depot.Proofs.Course
import Depot.Session.Basic
import Depot.Settings.Draft
import Depot.Proofs.Keeping
import Depot.Proofs.Exchange
import Depot.Proofs.Drive.Protocol
import Depot.Proofs.Query.Walk
import Depot.Proofs.Base.PutMany
import Depot.Proofs.World.Courses
import Depot.Proofs.Query.Filters
import Depot.Proofs.Report.Redaction
import Depot.Proofs.Number.Text
import Depot.Proofs.Drive.Chunks
import Depot.Proofs.Drive.Single
import Depot.Proofs.Drive.Integrity
import Depot.Proofs.Drive.Concurrency
import Depot.Proofs.Asking
import Depot.Proofs.Query.Resume
import Depot.Proofs.Http.Endpoint
import Depot.Proofs.Session.Recast
import Depot.Proofs.Session.Disguise
import Depot.Proofs.Session.Secrecy
import Depot.Proofs.Text.Percent
import Depot.Proofs.Url.Place
import Depot.Proofs.Http.Reaching
import Depot.Proofs.Alike
import Depot.Proofs.Alike.Operations
import Depot.Proofs.World.Retrying
import Depot.Proofs.World.Twins
import Depot.Proofs.Query.Homes
import Depot.Proofs.Session.Retrying
import Depot.Proofs.Session.Unseen
import Depot.Proofs.Query.Union
import Depot.Proofs.Url.Address
import Depot.Proofs.Drive.Listings
import Depot.Proofs.Http.Addresses
import Depot.Proofs.Report.Alarms
import Depot.Proofs.InTurn
import Depot.Proofs.InTurn.Operations
import Depot.Proofs.Report.Accounts
import Depot.Proofs.Drive.Accounts
import Depot.Proofs.Report.Failures
import Depot.Proofs.Number.Rank
import Depot.Proofs.World.Clock
import Depot.Proofs.World.Landing
import Depot.Proofs.World.Fetching
import Depot.Proofs.Query.Pages
import Depot.Proofs.Incidents
import Depot.Proofs.Base.Batches
import Depot.Proofs.Drive.Listeners
import Depot.Proofs.Drive.Progress
import Depot.Proofs.Balance
import Depot.Proofs.Balance.Operations
import Depot.Proofs.Report.Series
import Depot.Proofs.Balance.Counts
import Depot.Proofs.Drive.Counts
import Depot.Proofs.Client
import Depot.Proofs.Client.Ledger
import Depot.Proofs.Number.Decimal
import Depot.Proofs.Value.Parsing
import Depot.Proofs.Decode.Json
import Depot.Proofs.Decode.Items
import Depot.Proofs.Base.Items
import Depot.Proofs.Report.Apart
import Depot.Proofs.Http.Rejections
import Depot.Proofs.AskingOnce
import Depot.Proofs.World.AskingOnce
import Depot.Proofs.Gates
import Depot.Proofs.Retry
import Depot.Proofs.Number.Order
import Depot.Proofs.Settings.Drafting
import Depot.Proofs.Settings.Building
import Depot.Proofs.World.Trails
import Depot.Proofs.World.Attempting
import Depot.Proofs.Backoff
import Depot.Proofs.Value.Members
import Depot.Proofs.Base.Patches
import Depot.Proofs.Drive.Names
import Depot.Proofs.Base.Records
import Depot.Proofs.Transport.Sending
import Depot.Proofs.Value.Writing
import Depot.Proofs.Report.Lines
