import ApiWiring.Console.Desk
import ApiWiring.Main
import ApiWiring.Proofs.Representatives
import ApiWiring.Proofs.Keyed.Buckets
import ApiWiring.Proofs.Keyed.Keys
import ApiWiring.Proofs.Keyed.Readings
import ApiWiring.Proofs.Keyed.Rebuilding
import ApiWiring.Proofs.Keyed.Shelves
import ApiWiring.Proofs.Text.Identifier
import ApiWiring.Proofs.Text.LetterCase
import ApiWiring.Proofs.Text.Sanitizing
import ApiWiring.Proofs.Text.Segments
import ApiWiring.Proofs.Json.Alike
import ApiWiring.Proofs.Json.Canonical
import ApiWiring.Proofs.Json.Telling
import ApiWiring.Proofs.Json.Tokens
import ApiWiring.Proofs.Json.Values
import ApiWiring.Proofs.Document.Dictionary
import ApiWiring.Proofs.Document.Records
import ApiWiring.Proofs.Document.RoundTrip
import ApiWiring.Proofs.Document.Trees
import ApiWiring.Proofs.Dictionary.Defaults
import ApiWiring.Proofs.Dictionary.Growth
import ApiWiring.Proofs.Dictionary.Merging
import ApiWiring.Proofs.Api.Endpoint
import ApiWiring.Proofs.Api.Pointers
import ApiWiring.Proofs.Tree.Stops
import ApiWiring.Proofs.Naming.Variables
import ApiWiring.Proofs.Report.Copying
import ApiWiring.Proofs.Report.Groups
import ApiWiring.Proofs.Report.Identity
import ApiWiring.Proofs.Report.Manifest
import ApiWiring.Proofs.Wiring.Admission
import ApiWiring.Proofs.Wiring.Answers
import ApiWiring.Proofs.Wiring.Calls
import ApiWiring.Proofs.Wiring.Conflicts
import ApiWiring.Proofs.Wiring.Connecting
import ApiWiring.Proofs.Wiring.Filing
import ApiWiring.Proofs.Wiring.FirstRegistered
import ApiWiring.Proofs.Wiring.Isolation
import ApiWiring.Proofs.Wiring.Keys
import ApiWiring.Proofs.Wiring.LinkScope
import ApiWiring.Proofs.Wiring.Lookups
import ApiWiring.Proofs.Wiring.Minting
import ApiWiring.Proofs.Wiring.Nodes
import ApiWiring.Proofs.Wiring.Origins
import ApiWiring.Proofs.Wiring.Overrides
import ApiWiring.Proofs.Wiring.Pairs
import ApiWiring.Proofs.Wiring.PathChoice
import ApiWiring.Proofs.Wiring.Places
import ApiWiring.Proofs.Wiring.Preference
import ApiWiring.Proofs.Wiring.Producers
import ApiWiring.Proofs.Wiring.Registration
import ApiWiring.Proofs.Wiring.Reinference
import ApiWiring.Proofs.Wiring.Reordering
import ApiWiring.Proofs.Wiring.Rerun
import ApiWiring.Proofs.Wiring.Responses
import ApiWiring.Proofs.Wiring.Restriction
import ApiWiring.Proofs.Wiring.Revision
import ApiWiring.Proofs.Wiring.Routes
import ApiWiring.Proofs.Wiring.SecondAnswer
import ApiWiring.Proofs.Wiring.Siblings
import ApiWiring.Proofs.Wiring.Spelling
import ApiWiring.Proofs.Wiring.Surveys
import ApiWiring.Proofs.Wiring.Tables
import ApiWiring.Proofs.Wiring.UniqueNames
import ApiWiring.Proofs.Wiring.ValueChoice
import ApiWiring.Proofs.Grammar.Building
import ApiWiring.Proofs.Grammar.Captures
import ApiWiring.Proofs.Grammar.Course
import ApiWiring.Proofs.Grammar.Failing
import ApiWiring.Proofs.Grammar.Mentions
import ApiWiring.Proofs.Grammar.PathParts
import ApiWiring.Proofs.Grammar.Reads
import ApiWiring.Proofs.Grammar.Renewal
import ApiWiring.Proofs.Grammar.Repetition
import ApiWiring.Proofs.Grammar.Shadowing
import ApiWiring.Proofs.Grammar.Substitution
import ApiWiring.Proofs.Compilation.Captures
import ApiWiring.Proofs.Compilation.Consumers
import ApiWiring.Proofs.Compilation.Copying
import ApiWiring.Proofs.Compilation.Course
import ApiWiring.Proofs.Compilation.Defaults
import ApiWiring.Proofs.Compilation.Failures
import ApiWiring.Proofs.Compilation.Isolation
import ApiWiring.Proofs.Compilation.LinkScope
import ApiWiring.Proofs.Compilation.Mentions
import ApiWiring.Proofs.Compilation.Minting
import ApiWiring.Proofs.Compilation.Order
import ApiWiring.Proofs.Compilation.Overrides
import ApiWiring.Proofs.Compilation.Producers
import ApiWiring.Proofs.Compilation.Rerun
import ApiWiring.Proofs.Compilation.Siblings
import ApiWiring.Proofs.Compilation.Spelling
import ApiWiring.Proofs.Compilation.Toggles
import ApiWiring.Proofs.Compilation.Variables
