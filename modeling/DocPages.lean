import DocPages.Build.Basic
import DocPages.Build.Divergent
import DocPages.Build.Operations
import DocPages.Build.Params
import DocPages.Build.Program
import DocPages.Config.Basic
import DocPages.Config.Decode
import DocPages.Config.Format
import DocPages.Config.Load
import DocPages.Config.Validate
import DocPages.Content.Attrs
import DocPages.Content.Equality
import DocPages.Content.Node
import DocPages.Content.Visible
import DocPages.Content.Written
import DocPages.DocTag
import DocPages.DocTag.Content
import DocPages.Documentable
import DocPages.Dri
import DocPages.FileSystem
import DocPages.Json
import DocPages.Keyed
import DocPages.Merge.Grouping
import DocPages.Merge.SameClassName
import DocPages.Merge.Stock
import DocPages.Merge.Strategy
import DocPages.Merge.Tree
import DocPages.Page
import DocPages.Platform
import DocPages.Proofs.Build.Composition
import DocPages.Proofs.Build.Containment
import DocPages.Proofs.Build.Divergent
import DocPages.Proofs.Build.Framing
import DocPages.Proofs.Build.Instances
import DocPages.Proofs.Build.LinkTables
import DocPages.Proofs.Build.Nesting
import DocPages.Proofs.Build.Noninterference
import DocPages.Proofs.Build.Operations
import DocPages.Proofs.Build.PlatformText
import DocPages.Proofs.Build.Program
import DocPages.Proofs.Build.Sections
import DocPages.Proofs.Build.Yield
import DocPages.Proofs.CanonicalOrder
import DocPages.Proofs.Comment.Emphasis
import DocPages.Proofs.Comment.Expansion
import DocPages.Proofs.Comment.PlainText
import DocPages.Proofs.Comment.Styling
import DocPages.Proofs.Config.Loading
import DocPages.Proofs.Config.Validation
import DocPages.Proofs.Content.Containment
import DocPages.Proofs.Content.Erasure
import DocPages.Proofs.Content.Visibility
import DocPages.Proofs.Content.Written
import DocPages.Proofs.FileSystem
import DocPages.Proofs.Grouping
import DocPages.Proofs.Json
import DocPages.Proofs.Keyed
import DocPages.Proofs.Merge.Arrangement
import DocPages.Proofs.Merge.Clashes
import DocPages.Proofs.Merge.Configured
import DocPages.Proofs.Merge.Contents
import DocPages.Proofs.Merge.Contract
import DocPages.Proofs.Merge.Descent
import DocPages.Proofs.Merge.Group
import DocPages.Proofs.Merge.Idempotence
import DocPages.Proofs.Merge.Independence
import DocPages.Proofs.Merge.Joining
import DocPages.Proofs.Merge.NormalForm
import DocPages.Proofs.Merge.Provenance
import DocPages.Proofs.Merge.Regrouping
import DocPages.Proofs.Merge.Sources
import DocPages.Proofs.PageTree
import DocPages.Proofs.PlatformContainment
import DocPages.Proofs.PlatformDependent
import DocPages.Proofs.PropertyMap
import DocPages.Proofs.StablePartition
import DocPages.Proofs.Traversal
import DocPages.Properties
import DocPages.PropertyKind
import DocPages.PropertyMap
import DocPages.Signature
import DocPages.Text.Blank
import DocPages.Text.CaseData
import DocPages.Text.EscapeData
import DocPages.Text.Lowercase
import DocPages.Text.Quoted
import DocPages.Text.Ranges
import DocPages.Toml.DateTime
import DocPages.Toml.Document
import DocPages.Toml.Number
import DocPages.Toml.Reader
import DocPages.Toml.Table
import DocPages.Toml.Text
import DocPages.Toml.Value
