import Playbook.CommandLine.Arguments
import Playbook.CommandLine.Basic
import Playbook.CommandLine.Defaults
import Playbook.Composite
import Playbook.ControlField
import Playbook.Decimal.Division
import Playbook.Decimal.Layout
import Playbook.Decimal.Reading
import Playbook.Decimal.Shortest
import Playbook.Document
import Playbook.Element
import Playbook.Engine
import Playbook.Error
import Playbook.Facts
import Playbook.FileError
import Playbook.FilePath
import Playbook.FileSystem
import Playbook.Json.Basic
import Playbook.Json.Decoding
import Playbook.Json.Reading
import Playbook.Location
import Playbook.Main
import Playbook.Proofs.Outline.Basic
import Playbook.Proofs.Outline.Reading
import Playbook.Registry
import Playbook.Report
import Playbook.Resolution
import Playbook.Session
import Playbook.Settings
import Playbook.Shell.Arithmetic
import Playbook.Shell.FileUtility
import Playbook.Shell.Machine
import Playbook.Shell.Pattern
import Playbook.Shell.Printing
import Playbook.Shell.Reading
import Playbook.Shell.Regular
import Playbook.Shell.Run
import Playbook.Shell.Syntax
import Playbook.Shell.TextUtility
import Playbook.Shell.Token
import Playbook.Shell.Utility
import Playbook.SortedMap
import Playbook.Task.Basic
import Playbook.Task.Config
import Playbook.TaskKind
import Playbook.Template.Engine
import Playbook.Template.Evaluation
import Playbook.Template.Expression
import Playbook.Template.Filter.Argument
import Playbook.Template.Filter.Basic
import Playbook.Template.Filter.Check
import Playbook.Template.Filter.Collection
import Playbook.Template.Filter.Scalar
import Playbook.Template.Memory
import Playbook.Template.Operation
import Playbook.Template.Reading
import Playbook.Template.Rendering
import Playbook.Template.Resolver
import Playbook.Template.Token
import Playbook.Template.Value
import Playbook.Text.Base64
import Playbook.Text.Blank
import Playbook.Text.CaseMap
import Playbook.Text.Printable
import Playbook.Text.Quoted
import Playbook.Text.Search
import Playbook.Text.Utf8
import Playbook.Tree
import Playbook.VariableFile
import Playbook.Yaml.Cursor
import Playbook.Yaml.Event
import Playbook.Yaml.Fault
import Playbook.Yaml.Node
import Playbook.Yaml.Reading
import Playbook.Yaml.Scalar
import Playbook.Yaml.Token
import Playbook.Proofs.Outline.Placement
import Playbook.Proofs.Forest
import Playbook.Proofs.Preorder
import Playbook.Proofs.Grammar.Basic
import Playbook.Proofs.Grammar.Value
import Playbook.Proofs.Grammar.Element
import Playbook.Proofs.Asking
import Playbook.Proofs.Refinement
import Playbook.Proofs.Agreement
import Playbook.Proofs.Leaves
import Playbook.Proofs.Conduct
import Playbook.Proofs.Watch
import Playbook.Proofs.Nesting
import Playbook.Proofs.Lookup
import Playbook.Proofs.IncludeDepth
import Playbook.Proofs.Provenance
import Playbook.Proofs.Outline.Relocation
import Playbook.Proofs.Concatenation
import Playbook.Proofs.Likeness.Basic
import Playbook.Proofs.Rewriting
import Playbook.Proofs.Likeness.Running
import Playbook.Proofs.PlainBlock
import Playbook.Proofs.Overlay
import Playbook.Proofs.Inheritance
import Playbook.Proofs.PushDown
import Playbook.Proofs.Inclusion.Refusal
import Playbook.Proofs.Inclusion.Single
import Playbook.Proofs.Inclusion.Inlining
import Playbook.Proofs.Recital
import Playbook.Proofs.Settling
import Playbook.Proofs.Unresolved
import Playbook.Proofs.Sharing
import Playbook.Proofs.Course.Basic
import Playbook.Proofs.Course.Engine
import Playbook.Proofs.Course.Contract
import Playbook.Proofs.Course.Following
import Playbook.Proofs.Termination
import Playbook.Proofs.Footprint
import Playbook.Proofs.LoopBinding
import Playbook.Proofs.IgnoredErrors
import Playbook.Proofs.Script.Basic
import Playbook.Proofs.Script.Engine
import Playbook.Proofs.Script.Heed
import Playbook.Proofs.Script.Order
import Playbook.Proofs.Script.Conducted
import Playbook.Proofs.Cancellation
import Playbook.Proofs.Spelling.Basic
import Playbook.Proofs.Spelling.Value
import Playbook.Proofs.SerializedLoop
import Playbook.Proofs.LeafMap.Basic
import Playbook.Proofs.LeafMap.Resolving
import Playbook.Proofs.Ancestry
import Playbook.Proofs.Preparation
import Playbook.Proofs.Outline.Faults
import Playbook.Proofs.Joining
import Playbook.Proofs.KeyOrder
import Playbook.Proofs.MoreKinds
import Playbook.Proofs.Traversal
import Playbook.Proofs.Registration
import Playbook.Proofs.FactLoop
import Playbook.Proofs.Grammar.Fault
import Playbook.Proofs.Grammar.ValueFault
import Playbook.Proofs.Grammar.FirstFault
import Playbook.Proofs.Base64
import Playbook.Proofs.FastPath
import Playbook.Proofs.ObjectKeys
import Playbook.Proofs.InitialFacts
import Playbook.Proofs.Numeral
import Playbook.Proofs.IntegerFilter
import Playbook.Proofs.PermissionBits
import Playbook.Proofs.Locations
import Playbook.Proofs.FloatText.Rounding
import Playbook.Proofs.FloatText.Shortest
import Playbook.Proofs.FloatText.Fields
import Playbook.Proofs.FloatText.ReadBack
import Playbook.Proofs.FloatText.Layout
import Playbook.Proofs.Retexting
import Playbook.Proofs.PlainScalar
import Playbook.Proofs.CapturedConfig
