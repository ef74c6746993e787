import SecretBroker.Breaker
import SecretBroker.Breaker.Flight
import SecretBroker.Breaker.Inspection
import SecretBroker.Breaker.Registry
import SecretBroker.Broker
import SecretBroker.Cache
import SecretBroker.Cache.Stats
import SecretBroker.Command
import SecretBroker.Command.Report
import SecretBroker.Command.Run
import SecretBroker.Command.Usage
import SecretBroker.Credential
import SecretBroker.Credential.Fresh
import SecretBroker.Credential.Inspection
import SecretBroker.Credential.Json
import SecretBroker.Credential.Mask
import SecretBroker.Decimal.Binary64
import SecretBroker.Decimal.Layout
import SecretBroker.Decimal.Shortest
import SecretBroker.Duration
import SecretBroker.Duration.Phrase
import SecretBroker.Duration.Short
import SecretBroker.Gateway.Access
import SecretBroker.Gateway.Address
import SecretBroker.Gateway.Call
import SecretBroker.Gateway.Error
import SecretBroker.Gateway.Mode
import SecretBroker.Gateway.Operation
import SecretBroker.Gateway.Resolution
import SecretBroker.Gateway.Session
import SecretBroker.Gateway.Transport
import SecretBroker.Json.Complaint
import SecretBroker.Json.Lexeme
import SecretBroker.Json.Printer
import SecretBroker.Json.Reader
import SecretBroker.Json.Record
import SecretBroker.Json.Value
import SecretBroker.Log.Filter
import SecretBroker.Log.Format
import SecretBroker.Main
import SecretBroker.Retry
import SecretBroker.Settings
import SecretBroker.Settings.Environment
import SecretBroker.Settings.Json
import SecretBroker.Settings.Loader
import SecretBroker.Settings.Schema
import SecretBroker.Settings.Toml
import SecretBroker.Settings.Yaml
import SecretBroker.Text.Base64
import SecretBroker.Text.Blank
import SecretBroker.Text.Digits
import SecretBroker.Text.Natural
import SecretBroker.Text.Punycode
import SecretBroker.Text.Quoted
import SecretBroker.Text.Utf8
import SecretBroker.Text.Uuid
import SecretBroker.Timestamp
import SecretBroker.Toml.Document
import SecretBroker.Toml.Lexeme
import SecretBroker.Toml.Value
import SecretBroker.Unicode.Alphanumeric
import SecretBroker.Unicode.Composition
import SecretBroker.Unicode.Direction
import SecretBroker.Unicode.DomainMapping
import SecretBroker.Unicode.Extender
import SecretBroker.Unicode.Flips
import SecretBroker.Unicode.Joining
import SecretBroker.Unicode.Printable
import SecretBroker.Unicode.Rows
import SecretBroker.Url
import SecretBroker.Url.Domain
import SecretBroker.Url.Host
import SecretBroker.Url.Parser
import SecretBroker.Url.Path
import SecretBroker.Url.Percent
import SecretBroker.Yaml.Cursor
import SecretBroker.Yaml.Node
import SecretBroker.Yaml.Scalar
import SecretBroker.Yaml.Scanner
import SecretBroker.Yaml.Token
import SecretBroker.Proofs.Breaker.Traffic
import SecretBroker.Proofs.Breaker.Streak
import SecretBroker.Proofs.Breaker.Timeout
import SecretBroker.Proofs.Breaker.Trial
import SecretBroker.Proofs.Breaker.Stale
import SecretBroker.Proofs.Breaker.Progress
import SecretBroker.Proofs.Cache.Order
import SecretBroker.Proofs.Cache.Usage
import SecretBroker.Proofs.Cache.Freshness
import SecretBroker.Proofs.Cache.Residence
import SecretBroker.Proofs.Url.Decoding
import SecretBroker.Proofs.Url.Naming
import SecretBroker.Proofs.Gateway.Addressing
import SecretBroker.Proofs.Gateway.Trips
import SecretBroker.Proofs.Breaker.Count
import SecretBroker.Proofs.Gateway.Carriage
import SecretBroker.Proofs.Gateway.Resolving
import SecretBroker.Proofs.Broker.Enquiry
import SecretBroker.Proofs.Broker.Creation
import SecretBroker.Proofs.Broker.Stages
import SecretBroker.Proofs.Lookup
import SecretBroker.Proofs.Breaker.Switchboard
import SecretBroker.Proofs.Gateway.Course
import SecretBroker.Proofs.Gateway.Onward
import SecretBroker.Proofs.Broker.Usage
import SecretBroker.Proofs.Broker.Keeping
import SecretBroker.Proofs.Broker.Recall
import SecretBroker.Proofs.Gateway.Settlement
import SecretBroker.Proofs.Broker.Outage
import SecretBroker.Proofs.Retry.Delay
import SecretBroker.Proofs.Gateway.Expense
import SecretBroker.Proofs.Broker.Expense
import SecretBroker.Proofs.Gateway.Alongside
import SecretBroker.Proofs.Broker.Sessionwise
import SecretBroker.Proofs.Gateway.Isolation
import SecretBroker.Proofs.Broker.Isolation
import SecretBroker.Proofs.Gateway.Disturbance
import SecretBroker.Proofs.Gateway.Elapsed
import SecretBroker.Proofs.Broker.Disturbance
import SecretBroker.Proofs.Url.Http
import SecretBroker.Proofs.Url.Lettering
import SecretBroker.Proofs.Url.Place
import SecretBroker.Proofs.Url.Site
import SecretBroker.Proofs.Gateway.Badge
import SecretBroker.Proofs.Broker.Badge
import SecretBroker.Proofs.Broker.Checkup
import SecretBroker.Proofs.Cache.Room
import SecretBroker.Proofs.Cache.Statistics
import SecretBroker.Proofs.Retry.Attempts
import SecretBroker.Proofs.Gateway.Patience
import SecretBroker.Proofs.Gateway.Finding
import SecretBroker.Proofs.Command.Verdict
import SecretBroker.Proofs.Gateway.Provision
import SecretBroker.Proofs.Text.Spelling
import SecretBroker.Proofs.Gateway.Realm
import SecretBroker.Proofs.Gateway.Rerun
import SecretBroker.Proofs.Command.Masking
import SecretBroker.Proofs.Url.Blanks
import SecretBroker.Proofs.Url.Trimming
import SecretBroker.Proofs.Broker.Start
import SecretBroker.Proofs.Settings.Merging
import SecretBroker.Proofs.Gateway.Echo
import SecretBroker.Proofs.Command.Disclosure
import SecretBroker.Proofs.Json.Writing
import SecretBroker.Proofs.Json.Lexing
import SecretBroker.Proofs.Json.Reading
import SecretBroker.Proofs.Credential.RoundTrip
