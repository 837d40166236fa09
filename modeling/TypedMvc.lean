import TypedMvc.CSharp.Grammar
import TypedMvc.CSharp.Language
import TypedMvc.CSharp.Lexeme
import TypedMvc.CSharp.Lexer
import TypedMvc.CSharp.Parse
import TypedMvc.CSharp.Recovery
import TypedMvc.CSharp.Remarks
import TypedMvc.CSharp.Rules.Declarations
import TypedMvc.CSharp.Rules.Expressions
import TypedMvc.CSharp.Rules.Name
import TypedMvc.CSharp.Rules.Statements
import TypedMvc.CSharp.Rules.Types
import TypedMvc.CSharp.Token
import TypedMvc.CSharp.Tree
import TypedMvc.Command.Arguments
import TypedMvc.Command.Report
import TypedMvc.Command.Run
import TypedMvc.Controllers.Convention
import TypedMvc.Controllers.Discovery
import TypedMvc.Data.Json
import TypedMvc.Data.Value
import TypedMvc.Declaration.Codec
import TypedMvc.Declaration.Literal
import TypedMvc.Declaration.Node
import TypedMvc.Declaration.Render
import TypedMvc.Files.Glob
import TypedMvc.Files.GlobSyntax
import TypedMvc.Files.Ignore
import TypedMvc.Files.Path
import TypedMvc.Files.Tree
import TypedMvc.Files.Walk
import TypedMvc.Main
import TypedMvc.Model.Codec
import TypedMvc.Model.Controller
import TypedMvc.Naming.Identifier
import TypedMvc.Naming.Keyword
import TypedMvc.Naming.Matching
import TypedMvc.Project.Output
import TypedMvc.Project.Sources
import TypedMvc.Project.StaticFiles
import TypedMvc.Project.Views
import TypedMvc.Proofs.ActionFields
import TypedMvc.Proofs.BracePairs
import TypedMvc.Proofs.BuiltDeclarations
import TypedMvc.Proofs.ChangedPlaces
import TypedMvc.Proofs.CharacterClasses
import TypedMvc.Proofs.ClassMembers
import TypedMvc.Proofs.ClassNames
import TypedMvc.Proofs.CollectedSources
import TypedMvc.Proofs.CollectedTypes
import TypedMvc.Proofs.Collisions
import TypedMvc.Proofs.ControllerViews
import TypedMvc.Proofs.Convention
import TypedMvc.Proofs.CountedLines
import TypedMvc.Proofs.DeclarationHeads
import TypedMvc.Proofs.DeclarationTrees
import TypedMvc.Proofs.DroppedMembers
import TypedMvc.Proofs.FaithfulText
import TypedMvc.Proofs.FaultOrder
import TypedMvc.Proofs.FieldPlaces
import TypedMvc.Proofs.FileWrites
import TypedMvc.Proofs.FirstCollision
import TypedMvc.Proofs.FirstFields
import TypedMvc.Proofs.Following
import TypedMvc.Proofs.FoundControllers
import TypedMvc.Proofs.FoundFiles
import TypedMvc.Proofs.GatheredParts
import TypedMvc.Proofs.GeneratedClasses
import TypedMvc.Proofs.HeldTexts
import TypedMvc.Proofs.Indentation
import TypedMvc.Proofs.Inheritance
import TypedMvc.Proofs.LetterCase
import TypedMvc.Proofs.LexicalIdentifiers
import TypedMvc.Proofs.LineTexts
import TypedMvc.Proofs.ListingOrder
import TypedMvc.Proofs.LiteralScans
import TypedMvc.Proofs.LooseDeclarations
import TypedMvc.Proofs.LoweredText
import TypedMvc.Proofs.MemberGroups
import TypedMvc.Proofs.MemberIdentifiers
import TypedMvc.Proofs.MemberNames
import TypedMvc.Proofs.MemberReferences
import TypedMvc.Proofs.MergedInheritance
import TypedMvc.Proofs.Merging
import TypedMvc.Proofs.NamespaceLayout
import TypedMvc.Proofs.NormalExtensions
import TypedMvc.Proofs.Occurrences
import TypedMvc.Proofs.OrderedRepairs
import TypedMvc.Proofs.OutermostFaults
import TypedMvc.Proofs.OverloadedActions
import TypedMvc.Proofs.PartialSplit
import TypedMvc.Proofs.PathSteps
import TypedMvc.Proofs.ReadBack
import TypedMvc.Proofs.Regeneration
import TypedMvc.Proofs.RuledWalks
import TypedMvc.Proofs.RunChanges
import TypedMvc.Proofs.SameTree
import TypedMvc.Proofs.SettingSources
import TypedMvc.Proofs.SimpleNames
import TypedMvc.Proofs.SingleLines
import TypedMvc.Proofs.SortedFiles
import TypedMvc.Proofs.SortedLists
import TypedMvc.Proofs.SoundTrees
import TypedMvc.Proofs.SplitControllers
import TypedMvc.Proofs.StableScans
import TypedMvc.Proofs.StableWalks
import TypedMvc.Proofs.SyntaxReports
import TypedMvc.Proofs.TreeGrowth
import TypedMvc.Proofs.TypeIdentity
import TypedMvc.Proofs.UnitLayout
import TypedMvc.Proofs.UnitText
import TypedMvc.Proofs.UnrelatedTypes
import TypedMvc.Proofs.UsableNames
import TypedMvc.Proofs.ViewExtensions
import TypedMvc.Proofs.ViewFields
import TypedMvc.Proofs.ViewOwnership
import TypedMvc.Proofs.WalkedFiles
import TypedMvc.Proofs.WrittenFiles
import TypedMvc.Settings.Config
import TypedMvc.Settings.Load
import TypedMvc.Settings.Validity
import TypedMvc.Symbols.Diagnostic
import TypedMvc.Symbols.Extract
import TypedMvc.Symbols.Inheritance
import TypedMvc.Symbols.Partial
import TypedMvc.Symbols.SimpleName
import TypedMvc.Symbols.Snapshot
import TypedMvc.Symbols.Type
import TypedMvc.Synthesis.Collision
import TypedMvc.Synthesis.ControllerPart
import TypedMvc.Synthesis.Field
import TypedMvc.Synthesis.Generate
import TypedMvc.Synthesis.Root
import TypedMvc.Text.Pieces
import TypedMvc.Text.Quoted
import TypedMvc.Toml.Document
import TypedMvc.Toml.Scalar
import TypedMvc.Toml.Table
import TypedMvc.Toml.Text
import TypedMvc.Unicode.Alphabetic
import TypedMvc.Unicode.Case
import TypedMvc.Unicode.Category
import TypedMvc.Unicode.IdentifierClass
import TypedMvc.Unicode.Printable
import TypedMvc.Unicode.Ranges
import TypedMvc.Unicode.WhiteSpace
