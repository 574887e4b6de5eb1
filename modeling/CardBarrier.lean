import CardBarrier.Act
import CardBarrier.Arena
import CardBarrier.Attempt
import CardBarrier.Barrier
import CardBarrier.Card.Geometry
import CardBarrier.Card.Recorder
import CardBarrier.Card.RememberedSet
import CardBarrier.Card.Store
import CardBarrier.Card.Table
import CardBarrier.Console
import CardBarrier.Diagnostic
import CardBarrier.Environment
import CardBarrier.Event
import CardBarrier.Event.Reader
import CardBarrier.EventLog
import CardBarrier.Fault
import CardBarrier.FlushPoint
import CardBarrier.HeapView
import CardBarrier.Host
import CardBarrier.Interval
import CardBarrier.Interval.Bounds
import CardBarrier.Journal
import CardBarrier.Json
import CardBarrier.Json.Reader
import CardBarrier.Layout
import CardBarrier.Level
import CardBarrier.Policy
import CardBarrier.Policy.Allocation
import CardBarrier.Policy.Deferral
import CardBarrier.Proofs.Acceptance
import CardBarrier.Proofs.Accounting
import CardBarrier.Proofs.ArraySpan
import CardBarrier.Proofs.ArrayWrite
import CardBarrier.Proofs.CardNumbers
import CardBarrier.Proofs.Coarsening
import CardBarrier.Proofs.Compensation
import CardBarrier.Proofs.Conversation
import CardBarrier.Proofs.Counting
import CardBarrier.Proofs.Coupling
import CardBarrier.Proofs.Course
import CardBarrier.Proofs.Deferring
import CardBarrier.Proofs.Delivery
import CardBarrier.Proofs.Draining
import CardBarrier.Proofs.Enclosure
import CardBarrier.Proofs.EventStream
import CardBarrier.Proofs.EventText
import CardBarrier.Proofs.History
import CardBarrier.Proofs.InStep
import CardBarrier.Proofs.Installation
import CardBarrier.Proofs.Interleaving
import CardBarrier.Proofs.LastCard
import CardBarrier.Proofs.LogHistory
import CardBarrier.Proofs.Mailbox
import CardBarrier.Proofs.Meeting
import CardBarrier.Proofs.MoveEffect
import CardBarrier.Proofs.MutatorWork
import CardBarrier.Proofs.Observation
import CardBarrier.Proofs.Outcome
import CardBarrier.Proofs.Overrides
import CardBarrier.Proofs.Partition
import CardBarrier.Proofs.Posting
import CardBarrier.Proofs.Presentation
import CardBarrier.Proofs.Progress
import CardBarrier.Proofs.Quiet
import CardBarrier.Proofs.Recording
import CardBarrier.Proofs.Safekeeping
import CardBarrier.Proofs.ScanRoundTrip
import CardBarrier.Proofs.SplitWrite
import CardBarrier.Proofs.Statistics
import CardBarrier.Proofs.TableHistory
import CardBarrier.Proofs.Threads
import CardBarrier.Proofs.Uncounted
import CardBarrier.Proofs.WellBehaved
import CardBarrier.Proofs.Widening
import CardBarrier.Proofs.WordEdges
import CardBarrier.Proofs.Work
import CardBarrier.Proofs.Yields
import CardBarrier.Rounding
import CardBarrier.Settings
import CardBarrier.SetupError
import CardBarrier.Site
import CardBarrier.Slot
import CardBarrier.SlotHolder
import CardBarrier.Tally
import CardBarrier.Text.Graphic
import CardBarrier.Text.Numeral
import CardBarrier.Text.Quoted
import CardBarrier.Word
import CardBarrier.WriteBarrier
