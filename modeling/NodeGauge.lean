import NodeGauge.Exporter.Routes
import NodeGauge.Query.Host
import NodeGauge.Launch.Startup
import NodeGauge.Main
import NodeGauge.Proofs.Listing.Account
import NodeGauge.Proofs.Listing.Rows
import NodeGauge.Proofs.Text.Utf8
import NodeGauge.Proofs.Text.Feeds
import NodeGauge.Proofs.Number.Numeral
import NodeGauge.Proofs.Gres.Descriptor
import NodeGauge.Proofs.Gres.IndexList
import NodeGauge.Proofs.Listing.RoundTrip
import NodeGauge.Proofs.Exposition.ReadBack
import NodeGauge.Proofs.Exposition.Validity
import NodeGauge.Proofs.Exporter.Metrics
import NodeGauge.Proofs.Listing.Merge
import NodeGauge.Proofs.Exporter.Run
import NodeGauge.Proofs.Json.Numeral
import NodeGauge.Proofs.Json.Quote
import NodeGauge.Proofs.Json.Reader
import NodeGauge.Proofs.Json.Shape
import NodeGauge.Proofs.Node.Json
import NodeGauge.Proofs.Exporter.Records
import NodeGauge.Proofs.Exporter.Failure
import NodeGauge.Proofs.Exposition.Lookup
import NodeGauge.Proofs.Exposition.Recovery
import NodeGauge.Proofs.Exporter.Consistency
import NodeGauge.Proofs.Exporter.Logging
import NodeGauge.Proofs.Exporter.Signal
import NodeGauge.Proofs.Gres.Expansion
import NodeGauge.Proofs.Gres.Grammar
import NodeGauge.Proofs.Listing.Checks
import NodeGauge.Proofs.Listing.Occupancy
import NodeGauge.Proofs.Listing.Resources
import NodeGauge.Proofs.Listing.Padding
import NodeGauge.Proofs.Text.Quoted
import NodeGauge.Proofs.Listing.Message
import NodeGauge.Proofs.Json.Grammar
import NodeGauge.Proofs.Json.Array
import NodeGauge.Proofs.Json.Structure
import NodeGauge.Proofs.Node.Layout
import NodeGauge.Proofs.Launch.Arguments
import NodeGauge.Proofs.Launch.Startup
import NodeGauge.Proofs.Launch.Uri
import NodeGauge.Proofs.Launch.Listen
import NodeGauge.Proofs.Log.Filter
import NodeGauge.Proofs.Log.Pattern
import NodeGauge.Proofs.Query.Host
