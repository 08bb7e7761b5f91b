import CyreneExchange.Logging
import CyreneExchange.Integrations.Outbox.AtMostOnce
import CyreneExchange.Integrations.Outbox.Fencing
import CyreneExchange.Integrations.Outbox.Agreement
import CyreneExchange.Integrations.Outbox.Recovery
import CyreneExchange.Integrations.Outbox.Denial
import CyreneExchange.Integrations.Outbox.Resolution
import CyreneExchange.Integrations.Outbox.RetryBudget
import CyreneExchange.Integrations.Outbox.Arguments
import CyreneExchange.Integrations.Connector.Navigator
import CyreneExchange.Integrations.Connector.Reconciliation
import CyreneExchange.Integrations.Connector.Budgets
import CyreneExchange.Integrations.Intake.CommandOnce
import CyreneExchange.Integrations.Authorization.RenewalRuns
import CyreneExchange.Integrations.Authorization.Exclusive
import CyreneExchange.Integrations.Authorization.Undelivered
import CyreneExchange.Integrations.Authorization.CloudChanges
import CyreneExchange.Integrations.Authorization.Outages
import CyreneExchange.Integrations.Authorization.Lookups
import CyreneExchange.Gateway.Assembly
import CyreneExchange.Gateway.Audit
import CyreneExchange.Gateway.Canonical
import CyreneExchange.Gateway.DirectPlugin
import CyreneExchange.Gateway.Emission
import CyreneExchange.Gateway.Media
import CyreneExchange.Gateway.PluginProjection
import CyreneExchange.Gateway.RoutingPrivacy
import CyreneExchange.Gateway.StreamAgreement
import CyreneExchange.Integrations.Authorization.RenewalFinality
import CyreneExchange.General.Flights
import CyreneExchange.Product.AuditTrail
import CyreneExchange.Product.CreatedOnce
import CyreneExchange.Product.Creation
import CyreneExchange.Product.Publication
import CyreneExchange.Gateway.Reports
import CyreneExchange.Gateway.Usage
import CyreneExchange.Product.Embeddings
import CyreneExchange.Product.Planes
import CyreneExchange.Product.Isolation
import CyreneExchange.Product.SourceResolver
import CyreneExchange.Product.Billing
import CyreneExchange.Integrations.Connector.Receipts
import CyreneExchange.Integrations.Connector.Classification
import CyreneExchange.Integrations.Connector.MemoryRegistry
import CyreneExchange.Integrations.Connector.Replay
import CyreneExchange.Integrations.Graph.Projections
import CyreneExchange.General.Dialogue
import CyreneExchange.Integrations.Graph.Discovery
import CyreneExchange.Integrations.Graph.Untouched
import CyreneExchange.Integrations.Graph.Linking
import CyreneExchange.Integrations.Authorization.StoredTimes
import CyreneExchange.Integrations.Connector.Invoke
import CyreneExchange.Integrations.Authorization.NotificationReader
import CyreneExchange.Gateway.UpstreamFacts
import CyreneExchange.Integrations.Authorization.LastCheck
import CyreneExchange.Product.SourceChecks
