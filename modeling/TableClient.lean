import TableClient.Main
import TableClient.Properties.Text
import TableClient.Proofs.Formula.Grammar
import TableClient.Proofs.Formula.Interchange
import TableClient.Proofs.Expression.Collapse
import TableClient.Proofs.Expression.RoundTrip
import TableClient.Proofs.Expression.Text
import TableClient.Proofs.Client.Requests
import TableClient.Proofs.Client.Selectors
import TableClient.Proofs.Client.Written
import TableClient.Proofs.Client.Transcript
import TableClient.Proofs.Client.Secrecy
import TableClient.Proofs.Expression.Unambiguous
import TableClient.Proofs.Expression.Reading
import TableClient.Proofs.Expression.Vacancy
import TableClient.Proofs.Expression.Fields
import TableClient.Proofs.Dictionary
import TableClient.Proofs.Expression.Dispatch
import TableClient.Proofs.Json.WellFormed
import TableClient.Proofs.Expression.Canonical
import TableClient.Proofs.Config.BaseUrl
import TableClient.Proofs.Config.Lookup
import TableClient.Proofs.Json.Entries
import TableClient.Proofs.Client.Answers
import TableClient.Proofs.Url.Percent
import TableClient.Proofs.Url.Segments
import TableClient.Proofs.Url.Site
import TableClient.Proofs.Url.Escaped
import TableClient.Proofs.Client.Endpoint
import TableClient.Proofs.Client.Tables
import TableClient.Proofs.Expression.Context
import TableClient.Proofs.Properties.Layers
import TableClient.Proofs.Properties.Routes
import TableClient.Proofs.Command.Rendering
import TableClient.Proofs.Command.Stages
