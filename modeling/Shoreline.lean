import Shoreline.Account
import Shoreline.Account.Form
import Shoreline.Api
import Shoreline.Beach
import Shoreline.Beach.Distance
import Shoreline.Beach.Filter
import Shoreline.Calendar
import Shoreline.Calendar.Booking
import Shoreline.Calendar.View
import Shoreline.Client
import Shoreline.Client.Operation
import Shoreline.CommandLine
import Shoreline.Decimal.Binary
import Shoreline.Decimal.Layout
import Shoreline.Decimal.Numeral
import Shoreline.Decimal.Reading
import Shoreline.Decimal.Shortest
import Shoreline.Failure
import Shoreline.Favorites
import Shoreline.Feed
import Shoreline.Http.Message
import Shoreline.Http.Status
import Shoreline.Json.Decoder
import Shoreline.Json.Document
import Shoreline.Json.Number
import Shoreline.Json.Reader
import Shoreline.Json.Value
import Shoreline.Main
import Shoreline.Proofs.Client.Belated
import Shoreline.Proofs.Client.GuestFavorites
import Shoreline.Proofs.Client.GuestToggle
import Shoreline.Proofs.Client.Renewal
import Shoreline.Proofs.Feed.Latest
import Shoreline.Proofs.Feed.Shown
import Shoreline.Push
import Shoreline.Reservation
import Shoreline.Settings
import Shoreline.Settings.EnvFile
import Shoreline.Store
import Shoreline.Store.Record
import Shoreline.Text.Base64
import Shoreline.Text.Blank
import Shoreline.Text.Hex
import Shoreline.Text.Letter
import Shoreline.Text.Letter.Table
import Shoreline.Text.Lowercase
import Shoreline.Text.Lowercase.Table
import Shoreline.Text.Quoted
import Shoreline.Text.Quoted.Table
import Shoreline.Text.Ranges
import Shoreline.Text.Search
import Shoreline.Text.SortedMap
import Shoreline.Text.Utf8
import Shoreline.Time.Gregorian
import Shoreline.Time.Instant
import Shoreline.Time.Rfc3339
import Shoreline.Url.Address
import Shoreline.Url.Host
import Shoreline.Url.Percent
import Shoreline.Url.Punycode
import Shoreline.Verification
import Shoreline.Proofs.Decimal.Length
import Shoreline.Proofs.Client.Fetch
import Shoreline.Proofs.Client.OlderAnswer
import Shoreline.Proofs.Time.Civil
import Shoreline.Proofs.Time.ReadBack
import Shoreline.Proofs.Json.Record
import Shoreline.Proofs.Store.Visits
import Shoreline.Proofs.Client.Visits
import Shoreline.Proofs.Json.Pretty
import Shoreline.Proofs.Store.Drive
import Shoreline.Proofs.Store.Durable
import Shoreline.Proofs.Store.Sessions
import Shoreline.Proofs.Http.Reply
import Shoreline.Proofs.Client.Deeds
import Shoreline.Proofs.Client.HeldSession
import Shoreline.Proofs.Client.Conduct
import Shoreline.Proofs.Client.Failing
import Shoreline.Proofs.Calendar.Moves
import Shoreline.Proofs.Client.Booking
import Shoreline.Proofs.Calendar.Agreement
import Shoreline.Proofs.Client.Bearer
import Shoreline.Proofs.Store.Stamp
import Shoreline.Proofs.Client.Cooldown
import Shoreline.Proofs.Url.Segment
import Shoreline.Proofs.Url.Below
import Shoreline.Proofs.Api.Resources
import Shoreline.Proofs.Store.Kept
import Shoreline.Proofs.Beach.Passing
import Shoreline.Proofs.Calendar.Edge
import Shoreline.Proofs.Calendar.MonthLength
import Shoreline.Proofs.Calendar.Columns
import Shoreline.Proofs.Account.SignUpForm
import Shoreline.Proofs.Client.SignOut
import Shoreline.Proofs.Beach.Search
import Shoreline.Proofs.Client.Search
import Shoreline.Proofs.Feed.Copies
import Shoreline.Proofs.Client.Toggle
import Shoreline.Proofs.Client.Union
import Shoreline.Proofs.Time.Strict
import Shoreline.Proofs.Client.ReservedTime
import Shoreline.Proofs.Client.SignUp
import Shoreline.Proofs.Client.Countdown
import Shoreline.Proofs.Account.Expiry
import Shoreline.Proofs.Beach.WrittenBack
import Shoreline.Proofs.Http.Refusal
import Shoreline.Proofs.Push.Parts
import Shoreline.Proofs.Push.Origin
import Shoreline.Proofs.Settings.OffsetForms
