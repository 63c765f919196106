import SetuoraLite.Access.RoleAccessSaves
import SetuoraLite.Access.TallyAccess
import SetuoraLite.Access.UserDeletion
import SetuoraLite.Access.Users
import SetuoraLite.Audit.Reconcile
import SetuoraLite.Audit.Runs
import SetuoraLite.Catalog.ProductCodes
import SetuoraLite.Catalog.ProductNumbers
import SetuoraLite.Commands.ExactlyOnce
import SetuoraLite.Config.Backups
import SetuoraLite.Config.DatabaseReset
import SetuoraLite.Config.EnvFile
import SetuoraLite.Lib.Calendar
import SetuoraLite.Lib.Casing
import SetuoraLite.Lib.Custody
import SetuoraLite.Lib.ForeignKeys
import SetuoraLite.Lib.JsonDecode
import SetuoraLite.Lib.JsonSpaced
import SetuoraLite.Lib.Machine
import SetuoraLite.Lib.NewestFirst
import SetuoraLite.Lib.Request
import SetuoraLite.Lib.Sha256
import SetuoraLite.Lib.Table
import SetuoraLite.Lib.Transaction
import SetuoraLite.Reports.AmountInWords
import SetuoraLite.Reports.Expiry
import SetuoraLite.Reports.Movement
import SetuoraLite.Reports.StockMovement
import SetuoraLite.Stock.Announcements
import SetuoraLite.Stock.Confluence
import SetuoraLite.Stock.ImportPicks
import SetuoraLite.Stock.Keys
import SetuoraLite.Stock.LabelPrinting
import SetuoraLite.Stock.Lineage
import SetuoraLite.Stock.Network
import SetuoraLite.Stock.OneReservation
import SetuoraLite.Stock.Reservations
import SetuoraLite.Stock.SaleReturns
import SetuoraLite.Stock.ShelfGate
import SetuoraLite.Stock.StockLedger
import SetuoraLite.Stock.SubmittedVoucher
import SetuoraLite.Stock.TransferRuns
import SetuoraLite.Stock.VoucherTotals
import SetuoraLite.Store.Models
import SetuoraLite.Store.StockWrites
import SetuoraLite.Sync.BaselineGate
import SetuoraLite.Sync.BatchStatus
import SetuoraLite.Sync.Enrolment
import SetuoraLite.Sync.KeyRedaction
import SetuoraLite.Sync.Outbox
import SetuoraLite.Sync.Partition
import SetuoraLite.Sync.PushSettle
import SetuoraLite.Sync.RemoteError
import SetuoraLite.Sync.SftpRuns
