import LateBinding.Config
import LateBinding.Declaration
import LateBinding.Error
import LateBinding.Image.Basic
import LateBinding.Image.Edit
import LateBinding.Image.Loading
import LateBinding.Image.Registration
import LateBinding.Image.Tables
import LateBinding.Lock.Block
import LateBinding.Lock.Guarded
import LateBinding.Lock.Recursive
import LateBinding.Lock.Sections
import LateBinding.Log.Level
import LateBinding.Log.Logger
import LateBinding.Object
import LateBinding.Proofs.ArrivalOrder
import LateBinding.Proofs.Arrivals
import LateBinding.Proofs.Ascent
import LateBinding.Proofs.BlindActs
import LateBinding.Proofs.BlindEdits
import LateBinding.Proofs.Building
import LateBinding.Proofs.Categories
import LateBinding.Proofs.Chains
import LateBinding.Proofs.Changes
import LateBinding.Proofs.Coincidence
import LateBinding.Proofs.Composition
import LateBinding.Proofs.ConcurrentInterning
import LateBinding.Proofs.Courses
import LateBinding.Proofs.Descendants
import LateBinding.Proofs.Dispatching
import LateBinding.Proofs.DueHooks
import LateBinding.Proofs.Enrolment
import LateBinding.Proofs.Exclusion
import LateBinding.Proofs.Exhaustion
import LateBinding.Proofs.Foreign
import LateBinding.Proofs.Forest
import LateBinding.Proofs.Formation
import LateBinding.Proofs.Guards
import LateBinding.Proofs.Histories
import LateBinding.Proofs.Identity
import LateBinding.Proofs.Initialization
import LateBinding.Proofs.Interning
import LateBinding.Proofs.Inventory
import LateBinding.Proofs.Keeping
import LateBinding.Proofs.Ledger
import LateBinding.Proofs.LevelNames
import LateBinding.Proofs.Lifecycle
import LateBinding.Proofs.LoadCalls
import LateBinding.Proofs.LoadOrder
import LateBinding.Proofs.LockBalance
import LateBinding.Proofs.LogThreshold
import LateBinding.Proofs.Messaging
import LateBinding.Proofs.ModuleParts
import LateBinding.Proofs.Outcome
import LateBinding.Proofs.Outlines
import LateBinding.Proofs.Overriding
import LateBinding.Proofs.Overtaking
import LateBinding.Proofs.Passages
import LateBinding.Proofs.Passive
import LateBinding.Proofs.Preparing
import LateBinding.Proofs.Presence
import LateBinding.Proofs.Programs
import LateBinding.Proofs.Provenance
import LateBinding.Proofs.Recording
import LateBinding.Proofs.Recovery
import LateBinding.Proofs.Registering
import LateBinding.Proofs.Renewal
import LateBinding.Proofs.Replacement
import LateBinding.Proofs.Resolution
import LateBinding.Proofs.Roster
import LateBinding.Proofs.SectionOrder
import LateBinding.Proofs.SectionTable
import LateBinding.Proofs.SelectorService
import LateBinding.Proofs.Settling
import LateBinding.Proofs.SizePanics
import LateBinding.Proofs.Sizes
import LateBinding.Proofs.Soundness
import LateBinding.Proofs.Sourcing
import LateBinding.Proofs.SparseContents
import LateBinding.Proofs.SparseListing
import LateBinding.Proofs.SparseMap
import LateBinding.Proofs.SparseShape
import LateBinding.Proofs.SubclassOrder
import LateBinding.Proofs.SynchronizedBlocks
import LateBinding.Proofs.TableGrowth
import LateBinding.Proofs.TableTiming
import LateBinding.Proofs.Traversal
import LateBinding.Proofs.Twins
import LateBinding.Proofs.TwoRuns
import LateBinding.Proofs.Unfailing
import LateBinding.Proofs.UpwardClosure
import LateBinding.Registry.Ancestry
import LateBinding.Registry.Basic
import LateBinding.Registry.Change
import LateBinding.Registry.Class
import LateBinding.Selector.Table
import LateBinding.Session.Answer
import LateBinding.Session.Basic
import LateBinding.Session.Script
import LateBinding.Session.Sending
import LateBinding.Session.Shared
import LateBinding.Session.Step
import LateBinding.SparseMap.Basic
import LateBinding.SparseMap.Node
import LateBinding.Text.Blank
import LateBinding.Text.Form
import LateBinding.Text.Plain
import LateBinding.Text.Quoted
import LateBinding.Word
