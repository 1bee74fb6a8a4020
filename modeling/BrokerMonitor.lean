import BrokerMonitor.Main
import BrokerMonitor.Monitor.Session
import BrokerMonitor.Wire.Codec
import BrokerMonitor.Proofs.Connect.Failed
import BrokerMonitor.Proofs.Generation.Openings
import BrokerMonitor.Proofs.Generation.Stale
import BrokerMonitor.Proofs.Status.Delivery
import BrokerMonitor.Proofs.Observation.Line
import BrokerMonitor.Proofs.Observation.Observer
import BrokerMonitor.Proofs.Observation.Attentive
import BrokerMonitor.Proofs.Observation.Complete
import BrokerMonitor.Proofs.Generation.Own
import BrokerMonitor.Proofs.Listing.Agreement
import BrokerMonitor.Proofs.Listing.Finding
import BrokerMonitor.Proofs.Schedule.Wiring
import BrokerMonitor.Proofs.Schedule.Ready
import BrokerMonitor.Proofs.Schedule.Settle
import BrokerMonitor.Proofs.Schedule.Queue
import BrokerMonitor.Proofs.Schedule.Confluence
import BrokerMonitor.Proofs.Schedule.Independence
import BrokerMonitor.Proofs.Delivery.Contents
import BrokerMonitor.Proofs.Delivery.Following
import BrokerMonitor.Proofs.Delivery.Ledger
import BrokerMonitor.Proofs.Delivery.EndToEnd
import BrokerMonitor.Proofs.Status.History
import BrokerMonitor.Proofs.Observation.Coalesced
import BrokerMonitor.Proofs.Status.Traffic
import BrokerMonitor.Proofs.Observation.Forward
import BrokerMonitor.Proofs.Connect.Requests
import BrokerMonitor.Proofs.Outside
import BrokerMonitor.Proofs.Delivery.Conservation
import BrokerMonitor.Proofs.Listing.Chronicle
import BrokerMonitor.Proofs.Listing.Succession
import BrokerMonitor.Proofs.Delivery.Tenancy
import BrokerMonitor.Proofs.Delivery.Release
import BrokerMonitor.Proofs.Presence.Thinning
import BrokerMonitor.Proofs.Presence.Settling
import BrokerMonitor.Proofs.Presence.Subscribers
import BrokerMonitor.Proofs.Presence.Interference
import BrokerMonitor.Proofs.Delivery.Holding
import BrokerMonitor.Proofs.Schedule.Rest
import BrokerMonitor.Proofs.Ending.Dismissal
import BrokerMonitor.Proofs.Ending.LastNews
import BrokerMonitor.Proofs.Ending.Clients
import BrokerMonitor.Proofs.Ending.Drop
import BrokerMonitor.Proofs.Course.Attending
import BrokerMonitor.Proofs.Course.Timeline
import BrokerMonitor.Proofs.Course.Playing
import BrokerMonitor.Proofs.Course.Waiting
import BrokerMonitor.Proofs.Course.Exit
import BrokerMonitor.Proofs.Wire.Numbers
import BrokerMonitor.Proofs.Wire.Reading
import BrokerMonitor.Proofs.Wire.Fields
import BrokerMonitor.Proofs.Wire.RoundTrip
import BrokerMonitor.Proofs.Status.Maxima
import BrokerMonitor.Proofs.Client.Encounters
import BrokerMonitor.Proofs.Client.Life
import BrokerMonitor.Proofs.Listing.Publication
import BrokerMonitor.Proofs.Listing.Subscriptions
import BrokerMonitor.Proofs.Listing.Search
import BrokerMonitor.Proofs.Course.FirstListing
import BrokerMonitor.Proofs.Output.LineLog
import BrokerMonitor.Proofs.Settings.Masking
import BrokerMonitor.Proofs.Course.StatusReport
import BrokerMonitor.Proofs.Course.Viewing
import BrokerMonitor.Proofs.Output.LineReading
import BrokerMonitor.Proofs.Course.LatestListing
import BrokerMonitor.Proofs.Listing.Items
import BrokerMonitor.Proofs.Wire.Compatibility
import BrokerMonitor.Proofs.Address.Stability
import BrokerMonitor.Proofs.Course.Unreachable
import BrokerMonitor.Proofs.Address.Transport
