import AutoTrader.Trading.OrderDiscipline
import AutoTrader.Trading.Microstep
import AutoTrader.Trading.Orders.Convergence
import AutoTrader.Trading.Accounting.Conservation
import AutoTrader.Trading.Accounting.Restart
import AutoTrader.Trading.Accounting.SettlementCrash
import AutoTrader.Trading.Accounting.ExternalExit
import AutoTrader.Trading.Session.VersionRace
import AutoTrader.Trading.Session.QueueDelivery
import AutoTrader.Trading.Session.FreeBalance
import AutoTrader.Trading.Session.PendingJournal
import AutoTrader.Trading.Session.FreshIntents
import AutoTrader.Trading.Session.BuyLimits
import AutoTrader.Trading.Session.RetryQuantity
import AutoTrader.Trading.Session.Arbitration
import AutoTrader.Trading.Session.OrderStream
import AutoTrader.Trading.History.Publication
import AutoTrader.Trading.History.HistoryFile
import AutoTrader.Trading.History.PendingFile
import AutoTrader.Trading.History.ExportDirectory
import AutoTrader.Trading.Orders.MarketQuantity
import AutoTrader.Transport.LiveFeed
import AutoTrader.Transport.SidecarControl
import AutoTrader.Transport.CommandFlights
import AutoTrader.Transport.Replay
import AutoTrader.Trading.Regime.Evaluation
import AutoTrader.Trading.Session.LifecyclePaths
import AutoTrader.Trading.Accounting.Provenance
import AutoTrader.Trading.Accounting.FillDelivery
import AutoTrader.Trading.Session.StartRollback
import AutoTrader.Market.StreamOrdering
import AutoTrader.Market.MarketSnapshot
import AutoTrader.Market.BoundaryLaw
import AutoTrader.Market.BoundaryOrder
import AutoTrader.Market.HoldConditions
import AutoTrader.Market.Indicators
import AutoTrader.Trading.Account
import AutoTrader.Trading.Session.ScheduleLaw
import AutoTrader.Trading.Session.ContextVersions
import AutoTrader.Trading.History.ManualKillFile
import AutoTrader.Trading.History.HistoryStream
import AutoTrader.Trading.Orders.FillPayloads
import AutoTrader.Trading.Session.Drain
import AutoTrader.Trading.History.ExportFileName
