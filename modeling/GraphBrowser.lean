import GraphBrowser.Main
import GraphBrowser.Proofs.Results
import GraphBrowser.Proofs.Text.Basic
import GraphBrowser.Proofs.Text.Bytes
import GraphBrowser.Proofs.Json.Spelling
import GraphBrowser.Proofs.Json.Token
import GraphBrowser.Proofs.Json.Layout
import GraphBrowser.Proofs.Json.Reading
import GraphBrowser.Proofs.Json.Skip
import GraphBrowser.Proofs.Json.Brackets
import GraphBrowser.Proofs.Json.Document
import GraphBrowser.Proofs.Json.Fields
import GraphBrowser.Proofs.Json.Compact
import GraphBrowser.Proofs.Json.Accepted.Items
import GraphBrowser.Proofs.Json.Accepted.Value
import GraphBrowser.Proofs.Json.Accepted.Record
import GraphBrowser.Proofs.Graph.Layout
import GraphBrowser.Proofs.Graph.Compact
import GraphBrowser.Proofs.Graph.Walk
import GraphBrowser.Proofs.Page.Layout
import GraphBrowser.Proofs.Page.Decoding
import GraphBrowser.Proofs.Page.Slice
import GraphBrowser.Proofs.Page.Window
import GraphBrowser.Proofs.Page.Sliding
import GraphBrowser.Proofs.Page.Words
import GraphBrowser.Proofs.Page.Consistent
import GraphBrowser.Proofs.Page.Mapped
import GraphBrowser.Proofs.Url.Form
import GraphBrowser.Proofs.Url.Authority
import GraphBrowser.Proofs.Url.Target
import GraphBrowser.Proofs.Client.Site
import GraphBrowser.Proofs.Client.Service
import GraphBrowser.Proofs.Listing.Navigator
import GraphBrowser.Proofs.Listing.Step
import GraphBrowser.Proofs.Listing.Paging
import GraphBrowser.Proofs.Listing.Links
import GraphBrowser.Proofs.Listing.Retry
import GraphBrowser.Proofs.Listing.Moves
import GraphBrowser.Proofs.Listing.Size
import GraphBrowser.Proofs.Listing.Superseded
import GraphBrowser.Proofs.Listing.Remote
import GraphBrowser.Proofs.Client.Requests
import GraphBrowser.Proofs.Client.Outcome
import GraphBrowser.Proofs.Url.Appended
import GraphBrowser.Proofs.Client.Endpoint
import GraphBrowser.Proofs.CommandLine.Outcome
import GraphBrowser.Proofs.Report.Lines
import GraphBrowser.Proofs.CommandLine.Arguments
import GraphBrowser.Proofs.CommandLine.Listing
import GraphBrowser.Proofs.Graph.Accepted
import GraphBrowser.Proofs.Page.Canonical
import GraphBrowser.Proofs.Graph.Outline
import GraphBrowser.Proofs.Json.Accepted.Token
import GraphBrowser.Proofs.Json.Verbatim
import GraphBrowser.Proofs.Json.Accepted.Verbatim
import GraphBrowser.Proofs.Json.Local.Reader
import GraphBrowser.Proofs.Json.Judged
import GraphBrowser.Proofs.Page.Judged
import GraphBrowser.Proofs.Json.Members
import GraphBrowser.Proofs.Page.Built
import GraphBrowser.Proofs.Client.Rejection
import GraphBrowser.Proofs.Listing.Failure
import GraphBrowser.Proofs.Json.Accepted.Foreign
import GraphBrowser.Proofs.Graph.Described
import GraphBrowser.Proofs.Client.Description
import GraphBrowser.Proofs.Graph.Building
import GraphBrowser.Proofs.Client.Stray
import GraphBrowser.Proofs.Client.Warnings
import GraphBrowser.Proofs.Json.Printable
import GraphBrowser.Proofs.Report.Section
import GraphBrowser.Proofs.Report.Node
import GraphBrowser.Proofs.Report.Depth
import GraphBrowser.Proofs.Report.Pagination
import GraphBrowser.Proofs.Report.Columns
