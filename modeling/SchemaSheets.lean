import SchemaSheets.Main
import SchemaSheets.Proofs.Steps
import SchemaSheets.Proofs.Session.Account
import SchemaSheets.Proofs.Session.Notes
import SchemaSheets.Proofs.Integrity.Rounds
import SchemaSheets.Proofs.Integrity.Splits
import SchemaSheets.Proofs.Integrity.Closure
import SchemaSheets.Proofs.Integrity.Causes
import SchemaSheets.Proofs.Integrity.Comparison
import SchemaSheets.Proofs.Integrity.Greatest
import SchemaSheets.Proofs.Generate.Field
import SchemaSheets.Proofs.Generate.Account
import SchemaSheets.Proofs.Generate.Runs
import SchemaSheets.Proofs.Generate.Survivors
import SchemaSheets.Proofs.Generate.Notes
import SchemaSheets.Proofs.Generate.Causes
import SchemaSheets.Proofs.Generate.Comparison
import SchemaSheets.Proofs.Generate.Conservation
import SchemaSheets.Proofs.Generate.Warnings
import SchemaSheets.Proofs.Descriptor.Extras
import SchemaSheets.Proofs.Generate.Builder
import SchemaSheets.Proofs.Generate.Overrides
import SchemaSheets.Proofs.Source.Entries
import SchemaSheets.Proofs.Generate.Document
import SchemaSheets.Proofs.Value.Merge
import SchemaSheets.Proofs.Setup.Outcomes
import SchemaSheets.Proofs.Value.Portable
import SchemaSheets.Proofs.Descriptor.RoundTrip
import SchemaSheets.Proofs.Source.Roots
import SchemaSheets.Proofs.Source.Origin
import SchemaSheets.Proofs.Schema.Passing
import SchemaSheets.Proofs.Schema.Grammar
import SchemaSheets.Proofs.Schema.Spelling
import SchemaSheets.Proofs.Source.Introspected
import SchemaSheets.Proofs.Http.Exchange
import SchemaSheets.Proofs.Http.Reports
import SchemaSheets.Proofs.Http.Outcomes
import SchemaSheets.Proofs.Session.Steady
import SchemaSheets.Proofs.Generate.Summary
import SchemaSheets.Proofs.Space.Tasks
import SchemaSheets.Proofs.Space.Concurrent
import SchemaSheets.Proofs.Console.Markup
import SchemaSheets.Proofs.Command.Generate
import SchemaSheets.Proofs.Text.Digits
import SchemaSheets.Proofs.Text.Utf8
import SchemaSheets.Proofs.Json.Texts
import SchemaSheets.Proofs.Json.RoundTrip
import SchemaSheets.Proofs.Files.Store
import SchemaSheets.Proofs.Yaml.Cursor
import SchemaSheets.Proofs.Yaml.Plain
import SchemaSheets.Proofs.Yaml.Scanning
import SchemaSheets.Proofs.Yaml.Form
import SchemaSheets.Proofs.Setup.Written
import SchemaSheets.Proofs.Setup.Template
import SchemaSheets.Proofs.Command.FirstSetup
import SchemaSheets.Proofs.Generate.Column
import SchemaSheets.Proofs.Source.Depth
import SchemaSheets.Proofs.Generate.Identity
import SchemaSheets.Proofs.Setup.Entries
import SchemaSheets.Proofs.Value.Nested
import SchemaSheets.Proofs.Value.Absorption
import SchemaSheets.Proofs.Value.Paths
import SchemaSheets.Proofs.Url.Front
import SchemaSheets.Proofs.Url.Host
import SchemaSheets.Proofs.Words.Passes
import SchemaSheets.Proofs.Words.Tokens
import SchemaSheets.Proofs.Words.Heading
import SchemaSheets.Proofs.Source.Names
import SchemaSheets.Proofs.Source.Notation
import SchemaSheets.Proofs.Diagnostic.Merge
import SchemaSheets.Proofs.Diagnostic.Shelf
import SchemaSheets.Proofs.Space.Diagnostics
