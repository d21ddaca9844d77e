import ValuePath.Entries
import ValuePath.Text.Blank
import ValuePath.Text.Search
import ValuePath.Text.Lines
import ValuePath.Text.CaseTable
import ValuePath.Text.Case
import ValuePath.Text.HiddenTable
import ValuePath.Text.Quoted
import ValuePath.Text.Utf8
import ValuePath.Numeric.Binary
import ValuePath.Numeric.Shortest
import ValuePath.Numeric.Layout
import ValuePath.Numeric.Decimal
import ValuePath.Numeric.Number
import ValuePath.Value.Kind
import ValuePath.Value.Basic
import ValuePath.Value.Equality
import ValuePath.Value.Display
import ValuePath.Path.Segment
import ValuePath.Path.Parser
import ValuePath.Members.Arguments
import ValuePath.Members.TypeInfo
import ValuePath.Members.Objects
import ValuePath.Members.Matching
import ValuePath.Members.Text
import ValuePath.Members.Sequences
import ValuePath.Members.Maps
import ValuePath.Members.Scalars
import ValuePath.Members.Table
import ValuePath.Members.Summary
import ValuePath.Records
import ValuePath.Lookup.Error
import ValuePath.Lookup.Evaluate
import ValuePath.Lookup.Cast
import ValuePath.Lookup.Get
import ValuePath.Json.Basic
import ValuePath.Json.Number
import ValuePath.Json.Reader
import ValuePath.Json.Writer
import ValuePath.Yaml.Characters
import ValuePath.Yaml.Cursor
import ValuePath.Yaml.FlowText
import ValuePath.Yaml.BlockText
import ValuePath.Yaml.TagText
import ValuePath.Yaml.Token
import ValuePath.Yaml.Scan
import ValuePath.Yaml.Content
import ValuePath.Yaml.Document
import ValuePath.Yaml.Scalar
import ValuePath.Yaml.Node
import ValuePath.Yaml.ScalarText
import ValuePath.Yaml.Writer
import ValuePath.Yaml.NodeText
import ValuePath.Toml.Tree
import ValuePath.Toml.Scalar
import ValuePath.Toml.Text
import ValuePath.Toml.Reader
import ValuePath.Gzip.Bits
import ValuePath.Gzip.Code
import ValuePath.Gzip.Inflate
import ValuePath.Gzip.Member
import ValuePath.Document.Tree
import ValuePath.Document.Convert
import ValuePath.Document.Load
import ValuePath.Program.Config
import ValuePath.Program.Arguments
import ValuePath.Program.Run
import ValuePath.Main
import ValuePath.Proofs.DecimalText
import ValuePath.Proofs.PathGrammar
import ValuePath.Proofs.PathReading
import ValuePath.Proofs.PathPrinting
import ValuePath.Proofs.MemberTables
import ValuePath.Proofs.WrittenTrees
import ValuePath.Proofs.TreeLookup
import ValuePath.Proofs.LookupComposition
import ValuePath.Proofs.OverloadDispatch
import ValuePath.Proofs.DistinctKeys
import ValuePath.Proofs.NormalValues
import ValuePath.Proofs.ReadBack
import ValuePath.Proofs.Reloading
import ValuePath.Proofs.JsonGrammar
import ValuePath.Proofs.JsonReading
import ValuePath.Proofs.FlowScalars
import ValuePath.Proofs.ScanSteps
import ValuePath.Proofs.JsonTokens
import ValuePath.Proofs.JsonContents
import ValuePath.Proofs.Rounding
import ValuePath.Proofs.JsonNumbers
import ValuePath.Proofs.JsonAsYaml
import ValuePath.Proofs.SlotRenaming
import ValuePath.Proofs.GzipMembers
import ValuePath.Proofs.StoredMembers
import ValuePath.Proofs.InputRoutes
import ValuePath.Proofs.ContentRests
import ValuePath.Proofs.FlowValues
import ValuePath.Proofs.ScanLimits
import ValuePath.Proofs.ScalarRests
import ValuePath.Proofs.FlowScans
import ValuePath.Proofs.TokenFronts
import ValuePath.Proofs.JsonLines
import ValuePath.Proofs.LinesAsInput
import ValuePath.Proofs.PortableJson
import ValuePath.Proofs.NumericEquality
import ValuePath.Proofs.ValueEquality
import ValuePath.Proofs.CallSteps
import ValuePath.Proofs.WalkFailures
import ValuePath.Proofs.WalkLog
import ValuePath.Proofs.MemberBodies
import ValuePath.Proofs.BuiltinCalls
import ValuePath.Proofs.EqualDocuments
import ValuePath.Proofs.QuotedNames
import ValuePath.Proofs.RegistrationLog
import ValuePath.Proofs.TomlLines
import ValuePath.Proofs.SavedSettings
import ValuePath.Proofs.CommandWords
import ValuePath.Proofs.PrintedResults
import ValuePath.Proofs.OptionEffects
import ValuePath.Proofs.MemberCalls
import ValuePath.Proofs.TextParts
import ValuePath.Proofs.TextSearch
import ValuePath.Proofs.TextPositions
import ValuePath.Proofs.SplitPieces
import ValuePath.Proofs.SequenceViews
import ValuePath.Proofs.MapViews
import ValuePath.Proofs.JoinedKeys
import ValuePath.Proofs.SharedRules
import ValuePath.Proofs.AcceptedArguments
import ValuePath.Proofs.LaterRegistrations
import ValuePath.Proofs.IntegralCasts
import ValuePath.Proofs.DirectCalls
import ValuePath.Proofs.PlainLines
import ValuePath.Proofs.PlainSpellings
import ValuePath.Proofs.TypedWords
