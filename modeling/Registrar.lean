import Registrar.Channel
import Registrar.CommandLine
import Registrar.Directive.Reader
import Registrar.Discovery
import Registrar.FileTree
import Registrar.Main
import Registrar.Model.CrossReference
import Registrar.Model.Dump
import Registrar.Output.Synthesis
import Registrar.Pattern.Reader
import Registrar.Pipeline
import Registrar.Registry.Interpreter
import Registrar.Settings.Document
import Registrar.Source.Extraction
import Registrar.Proofs.Quoting
import Registrar.Proofs.Tables
import Registrar.Proofs.DirectiveGrammar
import Registrar.Proofs.Interpretation
import Registrar.Proofs.Collection
import Registrar.Proofs.FileTree
import Registrar.Proofs.Generation
import Registrar.Proofs.Discovery
import Registrar.Proofs.Rerun
import Registrar.Proofs.Success
import Registrar.Proofs.Independence
import Registrar.Proofs.Columns
import Registrar.Proofs.HandlerKeys
import Registrar.Proofs.Matching
import Registrar.Proofs.GeneratedNames
import Registrar.Proofs.CrossReference
import Registrar.Proofs.ByteOrder
import Registrar.Proofs.RegistryCalls
import Registrar.Proofs.SourceFiles
import Registrar.Proofs.ModelBuilding
import Registrar.Proofs.YamlScalars
import Registrar.Proofs.YamlMapping
import Registrar.Proofs.YamlDocuments
import Registrar.Proofs.SettingsRoundTrip
import Registrar.Proofs.Faults
import Registrar.Proofs.MethodLinks
import Registrar.Proofs.SegmentOrder
import Registrar.Proofs.AnnotationOrder
import Registrar.Proofs.CallText
import Registrar.Proofs.CallArguments
import Registrar.Proofs.Imports
import Registrar.Proofs.Lines
import Registrar.Proofs.Lexing
import Registrar.Proofs.LayoutPass
import Registrar.Proofs.Paragraphs
import Registrar.Proofs.RawStrings
import Registrar.Proofs.DirectiveDefects
import Registrar.Proofs.DocComments
import Registrar.Proofs.TemplateLayout
import Registrar.Proofs.AutomatonStates
import Registrar.Proofs.Derivation
import Registrar.Proofs.WellFormedTrees
import Registrar.Proofs.DeclaredEntities
import Registrar.Proofs.ReceiverTypes
import Registrar.Proofs.SegmentScans
import Registrar.Proofs.TreeSearch
