import EngineBridge.Arena
import EngineBridge.Binary64
import EngineBridge.Code
import EngineBridge.Codec
import EngineBridge.Config.Basic
import EngineBridge.Config.Printer
import EngineBridge.Config.Reader
import EngineBridge.Connection.Basic
import EngineBridge.Connection.Close
import EngineBridge.Connection.Open
import EngineBridge.Connection.Operations
import EngineBridge.Error
import EngineBridge.Event
import EngineBridge.Flags
import EngineBridge.Json.Lexical
import EngineBridge.Json.Skip
import EngineBridge.Library.Installation
import EngineBridge.Library.Source
import EngineBridge.Library.Startup
import EngineBridge.Native.Call
import EngineBridge.Native.Engine
import EngineBridge.Policy
import EngineBridge.Registry
import EngineBridge.Scripted.Cell
import EngineBridge.Scripted.Engine
import EngineBridge.Scripted.Libraries
import EngineBridge.Scripted.Script
import EngineBridge.Scripted.State
import EngineBridge.Session.Callback
import EngineBridge.Session.Run
import EngineBridge.Session.State
import EngineBridge.Session.Step
import EngineBridge.Slot
import EngineBridge.Statement
import EngineBridge.Symbol
import EngineBridge.Text.Blank
import EngineBridge.Text.Hex
import EngineBridge.Text.Invisible
import EngineBridge.Text.Quoted
import EngineBridge.Text.Utf8
import EngineBridge.Text.Utf8.Lemmas
import EngineBridge.Transcript
import EngineBridge.Upcall
import EngineBridge.Value
import EngineBridge.World
import EngineBridge.Proofs.Custody.Basic
import EngineBridge.Proofs.Custody.Leads
import EngineBridge.Proofs.Custody.Plain
import EngineBridge.Proofs.Upcall.Invocation
import EngineBridge.Proofs.Custody.Closing
import EngineBridge.Proofs.Custody.Installing
import EngineBridge.Proofs.Custody.Statements
import EngineBridge.Proofs.Session.Custody
import EngineBridge.Proofs.Session.Dropping
import EngineBridge.Proofs.Session.Serving
import EngineBridge.Proofs.Session.Acting
import EngineBridge.Proofs.Session.Running
import EngineBridge.Proofs.Custody.History
import EngineBridge.Proofs.Custody.Holding
import EngineBridge.Proofs.Custody.Objects
import EngineBridge.Proofs.Custody.Functions
import EngineBridge.Proofs.Custody.BusySlot
import EngineBridge.Proofs.Custody.Lifetimes
import EngineBridge.Proofs.Custody.Tracking
import EngineBridge.Proofs.Session.Calls
import EngineBridge.Proofs.Session.Reaching
import EngineBridge.Proofs.Custody.Failing
import EngineBridge.Proofs.Session.BusyHandler
import EngineBridge.Proofs.Session.FunctionTable
import EngineBridge.Proofs.Custody.Diagnosing
import EngineBridge.Proofs.Custody.Releasing
import EngineBridge.Proofs.Custody.Lifecycle
import EngineBridge.Proofs.Session.Releasing
import EngineBridge.Proofs.Session.Lifecycle
import EngineBridge.Proofs.Failure.Course
import EngineBridge.Proofs.Failure.Connections
import EngineBridge.Proofs.Failure.Statements
import EngineBridge.Proofs.Session.Failures
import EngineBridge.Proofs.Isolation.Ties
import EngineBridge.Proofs.Isolation.Oblivious
import EngineBridge.Proofs.Isolation.Parties
import EngineBridge.Proofs.Isolation.Entries
import EngineBridge.Proofs.Isolation.Disposal
import EngineBridge.Proofs.Isolation.Worlds
import EngineBridge.Proofs.Isolation.Changes
import EngineBridge.Proofs.Isolation.Agreeing
import EngineBridge.Proofs.Isolation.Statements
import EngineBridge.Proofs.Isolation.Connections
import EngineBridge.Proofs.Isolation.Operations
import EngineBridge.Proofs.Isolation.Upcalls
import EngineBridge.Proofs.Isolation.Attempts
import EngineBridge.Proofs.Isolation.Acting
import EngineBridge.Proofs.Isolation.Performing
import EngineBridge.Proofs.Isolation.Resting
import EngineBridge.Proofs.Isolation.ScriptedStates
import EngineBridge.Proofs.Isolation.ScriptedCourses
import EngineBridge.Proofs.Isolation.Interleaving
import EngineBridge.Proofs.Values.Cells
import EngineBridge.Proofs.Values.ScriptedCells
import EngineBridge.Proofs.Values.Reading
import EngineBridge.Proofs.Values.Survival
import EngineBridge.Proofs.Ownership.Forests
import EngineBridge.Proofs.Ownership.Dismantling
import EngineBridge.Proofs.Reentry.Replaying
import EngineBridge.Proofs.Reentry.Changes
import EngineBridge.Proofs.Reentry.Operations
import EngineBridge.Proofs.Reentry.Steps
import EngineBridge.Proofs.Reentry.Retelling
import EngineBridge.Proofs.Reentry.Performing
import EngineBridge.Proofs.Session.Reentry
import EngineBridge.Proofs.Library.Symbols
import EngineBridge.Proofs.Library.Loading
import EngineBridge.Proofs.Library.Resolution
import EngineBridge.Proofs.Text.WellFormed
import EngineBridge.Proofs.Values.NativeText
import EngineBridge.Proofs.Text.Division
import EngineBridge.Proofs.Operations.Preparing
import EngineBridge.Proofs.Library.Installation
import EngineBridge.Proofs.Operations.Basic
import EngineBridge.Proofs.Operations.Texts
import EngineBridge.Proofs.Operations.Raising
import EngineBridge.Proofs.Operations.Columns
import EngineBridge.Proofs.Session.Texts
import EngineBridge.Proofs.Session.StateErrors
import EngineBridge.Proofs.Custody.Provenance
import EngineBridge.Proofs.Operations.Parting
import EngineBridge.Proofs.Session.Moments
import EngineBridge.Proofs.Session.Dispatch
import EngineBridge.Proofs.Json.Grammar
import EngineBridge.Proofs.Json.Literals
import EngineBridge.Proofs.Json.Skipping
import EngineBridge.Proofs.Json.Recognition
import EngineBridge.Proofs.Config.Lexical
import EngineBridge.Proofs.Config.Roundtrip
import EngineBridge.Proofs.Config.Meaning
import EngineBridge.Proofs.Config.Reading
import EngineBridge.Proofs.Config.Objects
import EngineBridge.Proofs.Config.Recognition
import EngineBridge.Proofs.Config.Spellings
import EngineBridge.Proofs.Custody.Records
import EngineBridge.Proofs.Operations.Opening
import EngineBridge.Proofs.Ownership.Remnants
import EngineBridge.Proofs.Session.Opening
import EngineBridge.Proofs.Session.Remnants
import EngineBridge.Proofs.Operations.Additions
import EngineBridge.Proofs.Operations.Readings
import EngineBridge.Proofs.Operations.Narration
import EngineBridge.Proofs.Session.Routing
import EngineBridge.Proofs.Session.Prompting
import EngineBridge.Proofs.Session.Undergoing
import EngineBridge.Proofs.Session.Tracing
import EngineBridge.Proofs.Session.Histories
import EngineBridge.Proofs.Config.IntegerFields
