import CallGuard.Binary64.Decimal
import CallGuard.Binary64.Shortest
import CallGuard.Class.Forest
import CallGuard.Descriptor
import CallGuard.Dict.Lemmas
import CallGuard.Text.Blank
import CallGuard.Text.Quoted
import CallGuard.Json.Numeral
import CallGuard.Json.Content
import CallGuard.Json.Reader
import CallGuard.Value.Conversion
import CallGuard.Check
import CallGuard.Log
import CallGuard.Guard
import CallGuard.Config.Resolution
import CallGuard.Wire.Document
import CallGuard.Wire.Text
import CallGuard.Inspection
import CallGuard.Telemetry
import CallGuard.Trial
import CallGuard.Workshop
import CallGuard.Proofs.FullAbstraction
import CallGuard.Proofs.RawChecking
import CallGuard.Proofs.KeyGrammar
import CallGuard.Proofs.Layers
import CallGuard.Proofs.RunAccounting
import CallGuard.Proofs.ForestOrder
import CallGuard.Proofs.Listing
import CallGuard.Proofs.PositionalForms
import CallGuard.Proofs.FirstFault
import CallGuard.Proofs.Verdicts
import CallGuard.Proofs.CheckReports
import CallGuard.Proofs.Widening
import CallGuard.Proofs.BuildReports
import CallGuard.Proofs.LastEntries
import CallGuard.Proofs.Lockstep
import CallGuard.Proofs.Shallowness
import CallGuard.Proofs.Concatenation
import CallGuard.Proofs.Renaming
import CallGuard.Proofs.UsedNames
import CallGuard.Proofs.RegistryRuns
import CallGuard.Proofs.WriteHistories
import CallGuard.Proofs.DocumentPaths
import CallGuard.Proofs.ValueEquality
import CallGuard.Proofs.VariableGrammar
