import OutletWiring.Lines.Edit
import OutletWiring.Main
import OutletWiring.Proofs.Capability
import OutletWiring.Proofs.Conformance
import OutletWiring.Proofs.Identifiers.Probe
import OutletWiring.Proofs.Identifiers.Rows
import OutletWiring.Proofs.Identifiers.Worded
import OutletWiring.Proofs.Line.Inert
import OutletWiring.Proofs.Line.Kind
import OutletWiring.Proofs.Line.Quiet
import OutletWiring.Proofs.Lines.Ending
import OutletWiring.Proofs.Lines.Filling
import OutletWiring.Proofs.Lines.Insertion
import OutletWiring.Proofs.Lines.Reading
import OutletWiring.Proofs.Lines.Weave
import OutletWiring.Proofs.Naming
import OutletWiring.Proofs.Page.Block
import OutletWiring.Proofs.Page.Cell
import OutletWiring.Proofs.Page.Element
import OutletWiring.Proofs.Page.Screen
import OutletWiring.Proofs.Page.View
import OutletWiring.Proofs.Run.Course
import OutletWiring.Proofs.Run.FixedPoint
import OutletWiring.Proofs.Run.Frame
import OutletWiring.Proofs.Run.Names
import OutletWiring.Proofs.Run.Steady
import OutletWiring.Proofs.Setter.Binding
import OutletWiring.Proofs.Setter.Coherent
import OutletWiring.Proofs.Setter.Count
import OutletWiring.Proofs.Setter.Incremental
import OutletWiring.Proofs.Setter.Placement
import OutletWiring.Proofs.Setter.Session
import OutletWiring.Proofs.Setter.Wired
import OutletWiring.Proofs.Text.Occurrence
import OutletWiring.Proofs.Lines.Nesting
import OutletWiring.Proofs.Run.Report
import OutletWiring.Proofs.Page.Nesting
import OutletWiring.Proofs.Line.Citation
import OutletWiring.Proofs.Page.Citations
import OutletWiring.Proofs.Identifiers.Cases
import OutletWiring.Proofs.Conformance.Declaration
import OutletWiring.Proofs.Conformance.Again
import OutletWiring.Proofs.Conformance.Stuck
import OutletWiring.Proofs.Run.Changed
import OutletWiring.Proofs.Run.Bounds
import OutletWiring.Proofs.FileTree
import OutletWiring.Proofs.Command.Walk
import OutletWiring.Proofs.Command.Job
import OutletWiring.Proofs.Command.Cut
import OutletWiring.Proofs.Command.Check
import OutletWiring.Proofs.Run.Stops
import OutletWiring.Proofs.Setter.Apart
import OutletWiring.Proofs.Lines.WellCut
import OutletWiring.Proofs.Breaks
import OutletWiring.Proofs.Page.Intact
import OutletWiring.Proofs.Run.WellCut
import OutletWiring.Proofs.Lines.Inserted
import OutletWiring.Proofs.Line.Unseen
import OutletWiring.Proofs.Conformance.Ending
import OutletWiring.Proofs.Conformance.Unseen
import OutletWiring.Proofs.Conformance.WellCut
import OutletWiring.Proofs.Setter.WellCut
import OutletWiring.Proofs.Setter.Unseen
import OutletWiring.Proofs.Run.Unseen
import OutletWiring.Proofs.Setter.OnePass
import OutletWiring.Proofs.Conformance.Listed
import OutletWiring.Proofs.Setter.SameEnum
import OutletWiring.Proofs.Page.Members.Block
import OutletWiring.Proofs.Page.Members.Cell
import OutletWiring.Proofs.Page.Members.Screen
import OutletWiring.Proofs.Page.Members
import OutletWiring.Proofs.Text.Letter
import OutletWiring.Proofs.Naming.Capitals
import OutletWiring.Proofs.Lines.RoundTrip
import OutletWiring.Proofs.Line.Declared
import OutletWiring.Proofs.Lines.Written
import OutletWiring.Proofs.Run.OwnEnding
import OutletWiring.Proofs.Draft
import OutletWiring.Proofs.Line.Calls
import OutletWiring.Proofs.ViewKind
import OutletWiring.Proofs.Page.Functions
import OutletWiring.Proofs.Page.Recognition
