import Transit.Document
import Transit.Journal
import Transit.Main
import Transit.Report
import Transit.Yaml.Config
import Transit.Proofs.Containers
import Transit.Proofs.Loops
import Transit.Proofs.Neighbours
import Transit.Proofs.Views
import Transit.Proofs.Wiring
import Transit.Proofs.Coherence
import Transit.Proofs.Installation
import Transit.Proofs.Updates
import Transit.Proofs.Acceptance
import Transit.Session
import Transit.Proofs.History
import Transit.Proofs.Edges
import Transit.Proofs.Times
import Transit.Proofs.Lookups
import Transit.Proofs.Faults
import Transit.Proofs.Lines
import Transit.Proofs.Contents
import Transit.Proofs.Indexes
import Transit.Proofs.ReadBack
import Transit.Proofs.Determined
import Transit.Proofs.Verdicts
import Transit.Proofs.Layouts
import Transit.Proofs.Ledger
import Transit.Proofs.Answers
import Transit.Proofs.Lockstep
import Transit.Proofs.Likeness
import Transit.Proofs.Order
import Transit.Proofs.Interference
import Transit.Proofs.Shapes
import Transit.Proofs.Settings
import Transit.Proofs.Walks
import Transit.Proofs.Policies
import Transit.Proofs.Legs
import Transit.Proofs.Retiming
import Transit.Proofs.Twins
import Transit.Proofs.Resumption
import Transit.Proofs.Additions
import Transit.Proofs.Forms
import Transit.Proofs.Documents
import Transit.Proofs.Defects
import Transit.Proofs.Messages
