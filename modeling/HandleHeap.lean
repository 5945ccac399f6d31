import HandleHeap.Main
import HandleHeap.Heap.Operation
import HandleHeap.Proofs.Action
import HandleHeap.Proofs.Arena.Reservation
import HandleHeap.Proofs.Handle.Resolution
import HandleHeap.Proofs.Handle.Generations
import HandleHeap.Proofs.Heap.Parts
import HandleHeap.Proofs.Heap.Separation
import HandleHeap.Proofs.Heap.Writing
import HandleHeap.Proofs.Heap.Taking
import HandleHeap.Proofs.Heap.Frame
import HandleHeap.Proofs.Heap.Reachable
import HandleHeap.Proofs.Record.Window
import HandleHeap.Proofs.Handle.Accounting
import HandleHeap.Proofs.Handle.Renaming
import HandleHeap.Proofs.Heap.View
import HandleHeap.Proofs.Heap.Effects
import HandleHeap.Proofs.Heap.Invariants
import HandleHeap.Proofs.Pairing.Operations
import HandleHeap.Proofs.Shape.Chain
import HandleHeap.Proofs.Shape.Links
import HandleHeap.Proofs.Shape.Interning
import HandleHeap.Proofs.Shape.Keeping
import HandleHeap.Proofs.Shape.Sessions
import HandleHeap.Proofs.Pairing.Twin
import HandleHeap.Proofs.Session.Script
import HandleHeap.Proofs.Session.Coupling
import HandleHeap.Proofs.Session.Moves
import HandleHeap.Proofs.Shape.Twins
import HandleHeap.Proofs.Shape.Reference
import HandleHeap.Proofs.Handle.History
import HandleHeap.Proofs.Heap.Refusal
import HandleHeap.Proofs.Shape.Counting
import HandleHeap.Proofs.Element.Pushing
import HandleHeap.Proofs.Element.Sessions
import HandleHeap.Proofs.Record.Renaming
import HandleHeap.Proofs.Session.Isolation
import HandleHeap.Proofs.Handle.Balance
import HandleHeap.Proofs.Heap.Statistics
import HandleHeap.Proofs.Chain.Visits
import HandleHeap.Proofs.Chain.Lockstep
import HandleHeap.Proofs.Root.Accounting
import HandleHeap.Proofs.Arena.Confinement
import HandleHeap.Proofs.Heap.Intact
import HandleHeap.Proofs.Heap.Safety
import HandleHeap.Proofs.Heap.Resting
import HandleHeap.Proofs.Slot.Arrays
import HandleHeap.Proofs.Slot.Sessions
import HandleHeap.Proofs.Heap.Pinning
import HandleHeap.Proofs.Root.Mapping
import HandleHeap.Proofs.Root.Sessions
import HandleHeap.Proofs.Heap.TornDown
import HandleHeap.Proofs.Element.Refusal
import HandleHeap.Proofs.Chain.Course
import HandleHeap.Proofs.Chain.Ancestry
import HandleHeap.Proofs.Heap.Alignment
import HandleHeap.Proofs.Shape.Paths
import HandleHeap.Proofs.Shape.Searching
import HandleHeap.Proofs.Shape.Unlinking
import HandleHeap.Proofs.Element.Appending
import HandleHeap.Proofs.Heap.Absent
import HandleHeap.Proofs.Heap.NewObject
import HandleHeap.Proofs.Heap.Lineage
import HandleHeap.Proofs.Chain.Undisturbed
import HandleHeap.Proofs.Arena.Epochs
import HandleHeap.Proofs.Arena.History
import HandleHeap.Proofs.CommandLine.Stress
import HandleHeap.Proofs.Heap.Exhaustion
import HandleHeap.Proofs.Heap.Blocks
import HandleHeap.Proofs.Heap.Fields
import HandleHeap.Proofs.Record.Canonical
import HandleHeap.Proofs.Heap.Storing
import HandleHeap.Proofs.CommandLine.Chain
import HandleHeap.Proofs.CommandLine.Sizing
