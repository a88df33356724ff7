import ImportScan.Text.Case
import ImportScan.Text.Encoding
import ImportScan.Text.Quoted
import ImportScan.Text.Stream
import ImportScan.Number.Shortest
import ImportScan.Number.Reader
import ImportScan.Datum.Json
import ImportScan.Path
import ImportScan.Fault
import ImportScan.Platform
import ImportScan.Package
import ImportScan.Import
import ImportScan.Escape
import ImportScan.Table
import ImportScan.Store
import ImportScan.Tree.Snapshot
import ImportScan.Walk
import ImportScan.Cst.Extract
import ImportScan.Estree.Extract
import ImportScan.Estree.Shape
import ImportScan.Backend
import ImportScan.Script.Program
import ImportScan.Script.Parsers
import ImportScan.OutputTree
import ImportScan.Tree.Scan
import ImportScan.Analyzer.Build
import ImportScan.Watch.Observer
import ImportScan.Yaml.Cursor
import ImportScan.Yaml.Scalar
import ImportScan.Yaml.Token
import ImportScan.Yaml.Node
import ImportScan.Yaml.Load
import ImportScan.Yaml.Platform
import ImportScan.Config.File
import ImportScan.CommandLine.Run
import ImportScan.CommandLine.Input
import ImportScan.Main
import ImportScan.Proofs.Table
import ImportScan.Proofs.Store.Contents
import ImportScan.Proofs.Store.Laziness
import ImportScan.Proofs.Path.Components
import ImportScan.Proofs.Path.Relative
import ImportScan.Proofs.Text.Order
import ImportScan.Proofs.Tree.Patch
import ImportScan.Proofs.Analyzer.Exec
import ImportScan.Proofs.Analyzer.Apply
import ImportScan.Proofs.Analyzer.Build
import ImportScan.Proofs.Analyzer.Incremental
import ImportScan.Proofs.Analyzer.Mirror
import ImportScan.Proofs.Analyzer.Recovery
import ImportScan.Proofs.Disk.Straight
import ImportScan.Proofs.OutputTree.Local
import ImportScan.Proofs.Analyzer.InputIntact
import ImportScan.Proofs.Watch.NoLostUpdate
import ImportScan.Proofs.Extract.Walk
import ImportScan.Proofs.Extract.Program
import ImportScan.Proofs.Extract.Cst
import ImportScan.Proofs.Extract.Estree
import ImportScan.Proofs.Extract.Agreement
import ImportScan.Proofs.Extract.Preorder
import ImportScan.Proofs.Extract.Rejection
import ImportScan.Proofs.Extract.Layout
import ImportScan.Proofs.Extract.Annotation
import ImportScan.Proofs.Text.Units
import ImportScan.Proofs.Escape.Pieces
import ImportScan.Proofs.Escape.Cook
import ImportScan.Proofs.Store.History
import ImportScan.Proofs.Analyzer.Stored
import ImportScan.Proofs.Analyzer.Partition
import ImportScan.Proofs.Analyzer.Static
import ImportScan.Proofs.Watch.Debounce
import ImportScan.Proofs.Analyzer.Restart
import ImportScan.Proofs.Import.Equality
import ImportScan.Proofs.Analyzer.Patch
import ImportScan.Proofs.Analyzer.ByPath
import ImportScan.Proofs.Analyzer.Stopped
import ImportScan.Proofs.Analyzer.Resubmission
import ImportScan.Proofs.Analyzer.Layout
import ImportScan.Proofs.Text.Utf8
import ImportScan.Proofs.Text.Stream
import ImportScan.Proofs.Text.Ascii
import ImportScan.Proofs.Extract.Template
import ImportScan.Proofs.Extract.Records
import ImportScan.Proofs.OutputTree.Confined
import ImportScan.Proofs.Analyzer.Guard
import ImportScan.Proofs.Watch.Attention
import ImportScan.Proofs.Extract.Description
import ImportScan.Proofs.Config.Layers
import ImportScan.Proofs.Config.Kinds
import ImportScan.Proofs.CommandLine.Exit
import ImportScan.Proofs.Config.File
import ImportScan.Proofs.Text.Case
import ImportScan.Proofs.Text.Trim
import ImportScan.Proofs.Config.Extensions
