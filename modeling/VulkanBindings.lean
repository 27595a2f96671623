import VulkanBindings.Analysis.Roles
import VulkanBindings.CommandLine.Config
import VulkanBindings.CommandLine.Options
import VulkanBindings.CommandLine.Platform
import VulkanBindings.CommandLine.Run
import VulkanBindings.Failure
import VulkanBindings.Files.FileSystem
import VulkanBindings.Files.FileTree
import VulkanBindings.Files.Path
import VulkanBindings.Main
import VulkanBindings.NameSet
import VulkanBindings.Naming.Affix
import VulkanBindings.Naming.Case
import VulkanBindings.Naming.Native
import VulkanBindings.Order.Heap
import VulkanBindings.Order.Worklist
import VulkanBindings.Proofs.Analysis.Analyzed
import VulkanBindings.Proofs.Analysis.Counted
import VulkanBindings.Proofs.Analysis.SeparateRoles
import VulkanBindings.Proofs.Analysis.SoleOutput
import VulkanBindings.Proofs.CommandLine.AllOrNothing
import VulkanBindings.Proofs.Files.InMemory
import VulkanBindings.Proofs.Files.Reliable
import VulkanBindings.Proofs.Naming.Casing
import VulkanBindings.Proofs.Naming.RoundTrip
import VulkanBindings.Proofs.Order.Optimal
import VulkanBindings.Proofs.Order.Rescan
import VulkanBindings.Proofs.Order.Stuck
import VulkanBindings.Proofs.Order.Tracking
import VulkanBindings.Proofs.Outcome
import VulkanBindings.Proofs.Registry.Additions
import VulkanBindings.Proofs.Registry.Change
import VulkanBindings.Proofs.Registry.Consistent
import VulkanBindings.Proofs.Registry.Declarations
import VulkanBindings.Proofs.Registry.EnumeratorNames
import VulkanBindings.Proofs.Registry.Enumerators
import VulkanBindings.Proofs.Registry.Grammar
import VulkanBindings.Proofs.Registry.Guards
import VulkanBindings.Proofs.Registry.Layout
import VulkanBindings.Proofs.Registry.Members
import VulkanBindings.Proofs.Registry.Methods
import VulkanBindings.Proofs.Registry.Mirror
import VulkanBindings.Proofs.Registry.OwnWords
import VulkanBindings.Proofs.Registry.Reading
import VulkanBindings.Proofs.Registry.Requirements
import VulkanBindings.Proofs.Registry.Revision
import VulkanBindings.Proofs.Registry.Sizes
import VulkanBindings.Proofs.Registry.Spelling
import VulkanBindings.Proofs.Registry.Stages
import VulkanBindings.Proofs.Registry.Stems
import VulkanBindings.Proofs.Registry.SuccessCodes
import VulkanBindings.Proofs.Report.Counts
import VulkanBindings.Proofs.Running
import VulkanBindings.Proofs.Text.Search
import VulkanBindings.Proofs.Wrapper.Answers
import VulkanBindings.Proofs.Wrapper.CallShape
import VulkanBindings.Proofs.Wrapper.Calls
import VulkanBindings.Proofs.Wrapper.CommandBlock
import VulkanBindings.Proofs.Wrapper.Conditionals
import VulkanBindings.Proofs.Wrapper.Declared
import VulkanBindings.Proofs.Wrapper.DefaultArguments
import VulkanBindings.Proofs.Wrapper.Defaults
import VulkanBindings.Proofs.Wrapper.Discriminants
import VulkanBindings.Proofs.Wrapper.Emission
import VulkanBindings.Proofs.Wrapper.Enumerated
import VulkanBindings.Proofs.Wrapper.Failures
import VulkanBindings.Proofs.Wrapper.Lengths
import VulkanBindings.Proofs.Wrapper.Nesting
import VulkanBindings.Proofs.Wrapper.Overloads
import VulkanBindings.Proofs.Wrapper.Passing
import VulkanBindings.Proofs.Wrapper.Prepared
import VulkanBindings.Proofs.Wrapper.Returned
import VulkanBindings.Proofs.Wrapper.TwoCalls
import VulkanBindings.Proofs.Wrapper.TypeParameters
import VulkanBindings.Proofs.Wrapper.Writing
import VulkanBindings.Proofs.Wrapper.Written
import VulkanBindings.Registry.Code
import VulkanBindings.Registry.Command
import VulkanBindings.Registry.Commands
import VulkanBindings.Registry.Enumeration
import VulkanBindings.Registry.Enums
import VulkanBindings.Registry.Extensions
import VulkanBindings.Registry.Fault
import VulkanBindings.Registry.Member
import VulkanBindings.Registry.Sections
import VulkanBindings.Registry.Spec
import VulkanBindings.Registry.Types
import VulkanBindings.Report.Counts
import VulkanBindings.Report.Summary
import VulkanBindings.Table
import VulkanBindings.Text.Blank
import VulkanBindings.Text.Case
import VulkanBindings.Text.CaseTable
import VulkanBindings.Text.CodePoints
import VulkanBindings.Text.DigitTable
import VulkanBindings.Text.Fault
import VulkanBindings.Text.Number
import VulkanBindings.Text.PrintableTable
import VulkanBindings.Text.Quoted
import VulkanBindings.Text.Search
import VulkanBindings.Wrapper.Aggregate
import VulkanBindings.Wrapper.Body
import VulkanBindings.Wrapper.Context
import VulkanBindings.Wrapper.Entities
import VulkanBindings.Wrapper.Enum
import VulkanBindings.Wrapper.Fragment.Classes
import VulkanBindings.Wrapper.Fragment.Preamble
import VulkanBindings.Wrapper.Fragment.Results
import VulkanBindings.Wrapper.Handle
import VulkanBindings.Wrapper.Header
import VulkanBindings.Wrapper.Lines
import VulkanBindings.Wrapper.NativeCall
import VulkanBindings.Wrapper.Overloads
import VulkanBindings.Wrapper.ReturnType
import VulkanBindings.Wrapper.Signature
import VulkanBindings.Wrapper.Standard
import VulkanBindings.Xml.CodePage
import VulkanBindings.Xml.CodePageTable
import VulkanBindings.Xml.Declaration
import VulkanBindings.Xml.Definitions
import VulkanBindings.Xml.Document
import VulkanBindings.Xml.DocumentType
import VulkanBindings.Xml.Encoding
import VulkanBindings.Xml.Expansion
import VulkanBindings.Xml.Markup
import VulkanBindings.Xml.Name
import VulkanBindings.Xml.NameTable
import VulkanBindings.Xml.Namespace
import VulkanBindings.Xml.Node
import VulkanBindings.Xml.Reference
import VulkanBindings.Xml.Source
