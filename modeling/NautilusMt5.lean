import NautilusMt5.Service.TickExportRuns
import NautilusMt5.Client.FetchRuns
import NautilusMt5.Feed.NoLostSubscription
import NautilusMt5.Feed.Unsubscribe
import NautilusMt5.Execution.SubmitEvents
import NautilusMt5.Execution.Modify
import NautilusMt5.Execution.RoundTrip
import NautilusMt5.Execution.Reconciliation
import NautilusMt5.Execution.FillAccounting
import NautilusMt5.Execution.MassStatus
import NautilusMt5.Data.TicksAnswer
import NautilusMt5.Feed.TickDedup
import NautilusMt5.Feed.TickDelivery
import NautilusMt5.Feed.Commands
import NautilusMt5.Feed.MessageCodec
import NautilusMt5.Feed.Gateway
import NautilusMt5.Data.BarsAgree
import NautilusMt5.Data.BarsRange
import NautilusMt5.Data.BarTypes
import NautilusMt5.Feed.BarDelivery
import NautilusMt5.Execution.FillJoinRuns
import NautilusMt5.Execution.OrderCallbacks
import NautilusMt5.Client.Readiness
import NautilusMt5.Client.Resubscription
import NautilusMt5.Client.Attempts
import NautilusMt5.Client.SharedUsers
import NautilusMt5.Data.InstrumentProvider
import NautilusMt5.Feed.Quiescence
import NautilusMt5.Feed.Connections
import NautilusMt5.Client.QuoteSources
import NautilusMt5.Client.EndRequest
import NautilusMt5.Client.SharedFetches
import NautilusMt5.Client.PolledTicks
import NautilusMt5.Data.TradeTicks
import NautilusMt5.Client.Factories
import NautilusMt5.Execution.AccountSummary
import NautilusMt5.Execution.FillReports
import NautilusMt5.Client.RpycValue
import NautilusMt5.Client.Subscribe
import NautilusMt5.Execution.OrderRefs
import NautilusMt5.Data.Symbology
import NautilusMt5.Client.BarStreaming
import NautilusMt5.Execution.ReportFilters
import NautilusMt5.Execution.OpenOrderEchoes
import NautilusMt5.Execution.CancelAll
import NautilusMt5.Execution.CloseOnStop
import NautilusMt5.Execution.HedgeClose
import NautilusMt5.Feed.RequestPath
import NautilusMt5.EA.OpenPositions
import NautilusMt5.Feed.SubscriptionTimeframes
import NautilusMt5.Parsing.SizePrecision
import NautilusMt5.WebSocket.Sending
import NautilusMt5.Service.Serving
import NautilusMt5.Service.Session
import NautilusMt5.EA.Instruments
