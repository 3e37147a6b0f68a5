import Intercept.Alarm
import Intercept.Archive.CodePage
import Intercept.Archive.Inflate
import Intercept.Archive.Zip
import Intercept.Backend
import Intercept.Base64
import Intercept.Bytes
import Intercept.CommandLine.Options
import Intercept.CommandLine.Startup
import Intercept.Config.Checks
import Intercept.Config.Decode
import Intercept.Config.Load
import Intercept.Config.Settings
import Intercept.Decimal.Shortest
import Intercept.Digest.Crc32
import Intercept.Digest.Sha256
import Intercept.Http.Header
import Intercept.Http.MediaType
import Intercept.Http.Message
import Intercept.Http.Trace
import Intercept.Image.Delivery
import Intercept.Image.Feed
import Intercept.Image.Gate
import Intercept.Image.ResizeRequest
import Intercept.Image.Resizer
import Intercept.Image.Scaler
import Intercept.Image.Source
import Intercept.Image.Turnstile
import Intercept.Journal
import Intercept.Json.Printer
import Intercept.Json.Reader
import Intercept.Json.Record
import Intercept.Json.Value
import Intercept.Log.Filter
import Intercept.Main
import Intercept.Multipart.Disposition
import Intercept.Multipart.HeaderBlock
import Intercept.Multipart.Reader
import Intercept.Multipart.Writer
import Intercept.Net.Exchange
import Intercept.Net.SocketAddress
import Intercept.Net.Uri
import Intercept.Net.WebAddress
import Intercept.Proofs.Alarm
import Intercept.Proofs.Archive.Unpack
import Intercept.Proofs.Backend
import Intercept.Proofs.Base64
import Intercept.Proofs.Bytes
import Intercept.Proofs.Config.Settings
import Intercept.Proofs.Config.Verdict
import Intercept.Proofs.Digest.Sha256
import Intercept.Proofs.Http.Header
import Intercept.Proofs.Http.MediaType
import Intercept.Proofs.Image.Committed
import Intercept.Proofs.Image.Delivery
import Intercept.Proofs.Image.Feed
import Intercept.Proofs.Image.Gauge
import Intercept.Proofs.Image.ResizeRequest
import Intercept.Proofs.Image.Resizer
import Intercept.Proofs.Image.Resizing
import Intercept.Proofs.Image.Scaler
import Intercept.Proofs.Image.Slots
import Intercept.Proofs.Image.Turnstile
import Intercept.Proofs.Json.Printer
import Intercept.Proofs.Json.Reader
import Intercept.Proofs.Multipart.Arrival
import Intercept.Proofs.Multipart.Disposition
import Intercept.Proofs.Multipart.HeaderBlock
import Intercept.Proofs.Multipart.Reader
import Intercept.Proofs.Multipart.RoundTrip
import Intercept.Proofs.Multipart.Splitting
import Intercept.Proofs.Multipart.Writer
import Intercept.Proofs.Net.SocketAddress
import Intercept.Proofs.Net.Uri
import Intercept.Proofs.SendData
import Intercept.Proofs.Server
import Intercept.Proofs.Site
import Intercept.Proofs.Storage.Guard
import Intercept.Proofs.Storage.Outcome
import Intercept.Proofs.Storage.Pieces
import Intercept.Proofs.Storage.Save
import Intercept.Proofs.Storage.Unused
import Intercept.Proofs.Stream
import Intercept.Proofs.System.Disk
import Intercept.Proofs.Text.Decimal
import Intercept.Proofs.Text.Quoted
import Intercept.Proofs.Text.Utf8
import Intercept.Proofs.Transparency
import Intercept.Proofs.Upload.Accounting
import Intercept.Proofs.Upload.Agreement
import Intercept.Proofs.Upload.Artifact
import Intercept.Proofs.Upload.Authorization
import Intercept.Proofs.Upload.Cleanup
import Intercept.Proofs.Upload.Collision
import Intercept.Proofs.Upload.Confinement
import Intercept.Proofs.Upload.Contents
import Intercept.Proofs.Upload.Deposit
import Intercept.Proofs.Upload.Extraction
import Intercept.Proofs.Upload.FileIndex
import Intercept.Proofs.Upload.Handling
import Intercept.Proofs.Upload.Handover
import Intercept.Proofs.Upload.Injection
import Intercept.Proofs.Upload.NewForm
import Intercept.Proofs.Upload.Overrun
import Intercept.Proofs.Upload.Routing
import Intercept.Proofs.Upload.Splitting
import Intercept.Proofs.Upload.Stripping
import Intercept.Proofs.Upload.Transform
import Intercept.Proofs.Upload.Unstripped
import Intercept.SendData
import Intercept.Server
import Intercept.Shutdown
import Intercept.Site
import Intercept.Storage.Save
import Intercept.Storage.StoredFile
import Intercept.Stream
import Intercept.System.Disk
import Intercept.System.Error
import Intercept.System.Path
import Intercept.System.Program
import Intercept.Text.Blank
import Intercept.Text.Hidden
import Intercept.Text.Quoted
import Intercept.Text.Utf8
import Intercept.Toml.Number
import Intercept.Toml.Reader
import Intercept.Toml.Text
import Intercept.Toml.Value
import Intercept.Upload.Authorization
import Intercept.Upload.Deposit
import Intercept.Upload.Extraction
import Intercept.Upload.Fault
import Intercept.Upload.FileIndex
import Intercept.Upload.FileName
import Intercept.Upload.Grant
import Intercept.Upload.Handling
import Intercept.Upload.ReservedNames
import Intercept.Upload.Route
import Intercept.Upload.Stripping
import Intercept.Upload.Transform
