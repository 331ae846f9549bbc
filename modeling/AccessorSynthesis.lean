import AccessorSynthesis.ClassFile.AccessFlags
import AccessorSynthesis.ClassFile.Basic
import AccessorSynthesis.ClassFile.Bytes
import AccessorSynthesis.ClassFile.Codec
import AccessorSynthesis.ClassFile.Constant
import AccessorSynthesis.ClassFile.ConstantPool
import AccessorSynthesis.ClassFile.Error
import AccessorSynthesis.ClassFile.Instruction
import AccessorSynthesis.ClassFile.Listing
import AccessorSynthesis.ClassFile.Method
import AccessorSynthesis.ClassFile.ModifiedUtf8
import AccessorSynthesis.Compilation.Basic
import AccessorSynthesis.Compilation.Emission
import AccessorSynthesis.Compilation.Registry
import AccessorSynthesis.Compilation.Skeleton
import AccessorSynthesis.Configuration.Basic
import AccessorSynthesis.Configuration.Choices
import AccessorSynthesis.Configuration.Folder
import AccessorSynthesis.Configuration.Settings
import AccessorSynthesis.Decimal.Shortest
import AccessorSynthesis.Declaration.Basic
import AccessorSynthesis.Declaration.Hierarchy
import AccessorSynthesis.Declaration.MemberFlags
import AccessorSynthesis.Declaration.QualifiedName
import AccessorSynthesis.Declaration.Table
import AccessorSynthesis.Keyed
import AccessorSynthesis.Report.Message
import AccessorSynthesis.Report.Rendering
import AccessorSynthesis.Report.Severity
import AccessorSynthesis.Source.Document
import AccessorSynthesis.Source.Sources
import AccessorSynthesis.Source.Span
import AccessorSynthesis.Synthesis.Basic
import AccessorSynthesis.Synthesis.Derivation
import AccessorSynthesis.Synthesis.Override
import AccessorSynthesis.Text.Blank
import AccessorSynthesis.Text.Hexadecimal
import AccessorSynthesis.Text.Printable
import AccessorSynthesis.Text.Quoted
import AccessorSynthesis.Text.Utf16
import AccessorSynthesis.Toml.Document
import AccessorSynthesis.Toml.Expression
import AccessorSynthesis.Toml.Number
import AccessorSynthesis.Toml.Scanner
import AccessorSynthesis.Toml.Text
import AccessorSynthesis.Toml.Value
import AccessorSynthesis.Proofs.ClassFile.Acceptance
import AccessorSynthesis.Proofs.ClassFile.Building
import AccessorSynthesis.Proofs.ClassFile.ConstantPool
import AccessorSynthesis.Proofs.ClassFile.DeclaredLength
import AccessorSynthesis.Proofs.ClassFile.Decoder
import AccessorSynthesis.Proofs.ClassFile.Indexing
import AccessorSynthesis.Proofs.ClassFile.InstructionStream
import AccessorSynthesis.Proofs.ClassFile.Invariant
import AccessorSynthesis.Proofs.ClassFile.Limits
import AccessorSynthesis.Proofs.ClassFile.ModifiedUtf8
import AccessorSynthesis.Proofs.ClassFile.Normalization
import AccessorSynthesis.Proofs.ClassFile.Preservation
import AccessorSynthesis.Proofs.ClassFile.Representation
import AccessorSynthesis.Proofs.ClassFile.RoundTrip
import AccessorSynthesis.Proofs.ClassFile.Skimming
import AccessorSynthesis.Proofs.ClassFile.Spelling
import AccessorSynthesis.Proofs.ClassFile.Truncation
import AccessorSynthesis.Proofs.ClassFile.Update
import AccessorSynthesis.Proofs.ClassFile.Writing
import AccessorSynthesis.Proofs.Compilation.Accessors
import AccessorSynthesis.Proofs.Compilation.Dispatch
import AccessorSynthesis.Proofs.Compilation.Emission
import AccessorSynthesis.Proofs.Compilation.Extensions
import AccessorSynthesis.Proofs.Compilation.Fidelity
import AccessorSynthesis.Proofs.Compilation.Generation
import AccessorSynthesis.Proofs.Compilation.Outcome
import AccessorSynthesis.Proofs.Compilation.Output
import AccessorSynthesis.Proofs.Compilation.Precedence
import AccessorSynthesis.Proofs.Compilation.Reinstallation
import AccessorSynthesis.Proofs.Compilation.Repetition
import AccessorSynthesis.Proofs.Compilation.Resolution
import AccessorSynthesis.Proofs.Compilation.Skeleton
import AccessorSynthesis.Proofs.Compilation.Transcript
import AccessorSynthesis.Proofs.Configuration.Settings
import AccessorSynthesis.Proofs.Declaration.BreadthFirst
import AccessorSynthesis.Proofs.Declaration.Carrier
import AccessorSynthesis.Proofs.Declaration.Header
import AccessorSynthesis.Proofs.Declaration.Hierarchy
import AccessorSynthesis.Proofs.Declaration.Table
import AccessorSynthesis.Proofs.Declaration.Updates
import AccessorSynthesis.Proofs.Keyed
import AccessorSynthesis.Proofs.Refusable
import AccessorSynthesis.Proofs.Report.Dump
import AccessorSynthesis.Proofs.Report.Underline
import AccessorSynthesis.Proofs.Source.Lines
import AccessorSynthesis.Proofs.Source.Lookup
import AccessorSynthesis.Proofs.Source.Navigation
import AccessorSynthesis.Proofs.Source.Position
import AccessorSynthesis.Proofs.Source.Progression
import AccessorSynthesis.Proofs.Synthesis.Agreement
import AccessorSynthesis.Proofs.Synthesis.Coherence
import AccessorSynthesis.Proofs.Synthesis.Derivation
import AccessorSynthesis.Proofs.Synthesis.Independence
import AccessorSynthesis.Proofs.Synthesis.Literal
import AccessorSynthesis.Proofs.Synthesis.Order
import AccessorSynthesis.Proofs.Synthesis.Stability
import AccessorSynthesis.Proofs.Synthesis.Visit
import AccessorSynthesis.Proofs.Toml.Document
