import TypeLineage.Main
import TypeLineage.Proofs.Registry.Hierarchy
import TypeLineage.Proofs.Registry.Keeping
import TypeLineage.Proofs.Registry.Rereading
import TypeLineage.Proofs.Extract.Extraction
import TypeLineage.Proofs.Command.Index
import TypeLineage.Proofs.Reach.BreadthFirst
import TypeLineage.Proofs.Registry.Outline
import TypeLineage.Proofs.Report.Diagnosis
import TypeLineage.Proofs.Report.Summary
import TypeLineage.Proofs.Fact.Places
import TypeLineage.Proofs.Fact.Isolation
import TypeLineage.Proofs.Report.Figures
import TypeLineage.Proofs.Json.Members
import TypeLineage.Proofs.Extract.Relations
import TypeLineage.Proofs.Extract.Completeness
import TypeLineage.Proofs.Project.Setup
import TypeLineage.Proofs.Relation.Runs
import TypeLineage.Proofs.Registry.TypeMap
import TypeLineage.Proofs.Files.Narrowing
import TypeLineage.Proofs.Files.Strokes
import TypeLineage.Proofs.Listing
