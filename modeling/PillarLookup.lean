import PillarLookup.Binary64.Basic
import PillarLookup.Binary64.Layout
import PillarLookup.Binary64.Shortest
import PillarLookup.CommandLine.Arguments
import PillarLookup.CommandLine.Run
import PillarLookup.Config
import PillarLookup.Duration
import PillarLookup.Extraction
import PillarLookup.Http
import PillarLookup.Json.Fault
import PillarLookup.Json.Lexeme
import PillarLookup.Json.Members
import PillarLookup.Json.Printer
import PillarLookup.Json.Reader
import PillarLookup.Json.Shape
import PillarLookup.Json.Skip
import PillarLookup.Json.Value
import PillarLookup.Log
import PillarLookup.Log.Filter
import PillarLookup.Main
import PillarLookup.Outcome
import PillarLookup.OutputFormat
import PillarLookup.Query
import PillarLookup.Record
import PillarLookup.SaltApi.Client
import PillarLookup.SaltApi.Error
import PillarLookup.SaltApi.Message
import PillarLookup.SaltApi.Rehearsal
import PillarLookup.SaltApi.Server
import PillarLookup.SaltApi.Session
import PillarLookup.SaltApi.Wait
import PillarLookup.Script
import PillarLookup.Text.Blank
import PillarLookup.Text.Digits
import PillarLookup.Text.Hidden
import PillarLookup.Text.Marked
import PillarLookup.Text.Quoted
import PillarLookup.Text.Split
import PillarLookup.Text.Utf8
import PillarLookup.Trace
import PillarLookup.Url.Address
import PillarLookup.Url.Basic
import PillarLookup.Url.Domain
import PillarLookup.Url.Host
import PillarLookup.Url.Parser
import PillarLookup.Url.Path
import PillarLookup.Url.Percent
import PillarLookup.Url.Punycode
import PillarLookup.Yaml.Document
import PillarLookup.Yaml.Scalar
import PillarLookup.Proofs.Json.Lexeme
import PillarLookup.Proofs.Json.Regular
import PillarLookup.Proofs.Json.RoundTrip
import PillarLookup.Proofs.SaltApi.Exchange
import PillarLookup.Proofs.SaltApi.Watch
import PillarLookup.Proofs.SaltApi.Waiting
import PillarLookup.Proofs.SaltApi.Course
import PillarLookup.Proofs.Extraction
import PillarLookup.Proofs.SaltApi.Phases
import PillarLookup.Proofs.SaltApi.History
import PillarLookup.Proofs.SaltApi.Token
import PillarLookup.Proofs.Records
import PillarLookup.Proofs.SaltApi.Value
import PillarLookup.Proofs.Answers
import PillarLookup.Proofs.SaltApi.Closing
import PillarLookup.Proofs.SaltApi.Yield
import PillarLookup.Proofs.SaltApi.Diagnosis
import PillarLookup.Proofs.SaltApi.Elapsed
import PillarLookup.Proofs.SaltApi.Pace
import PillarLookup.Proofs.Json.Entries
import PillarLookup.Proofs.Judgement
import PillarLookup.Proofs.SaltApi.Silent
import PillarLookup.Proofs.CommandLine.Exit
import PillarLookup.Proofs.CommandLine.Settings
import PillarLookup.Proofs.SaltApi.Stages
import PillarLookup.Proofs.SaltApi.Faults
import PillarLookup.Proofs.SaltApi.Twins
import PillarLookup.Proofs.SaltApi.Secrets
import PillarLookup.Proofs.Classification
import PillarLookup.Proofs.Order
import PillarLookup.Proofs.Written
import PillarLookup.Proofs.SaltApi.Bodies
import PillarLookup.Proofs.Json.Line
import PillarLookup.Proofs.CommandLine.Output
import PillarLookup.Proofs.SaltApi.Endpoints
import PillarLookup.Proofs.Yaml.Frame
import PillarLookup.Proofs.Text.Utf8
import PillarLookup.Proofs.Url.Domain
import PillarLookup.Proofs.Configuration
