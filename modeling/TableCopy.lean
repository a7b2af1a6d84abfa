import TableCopy.Number.Binary64
import TableCopy.Number.Shortest
import TableCopy.Number.Word
import TableCopy.Number.Reading
import TableCopy.Number.Quantity
import TableCopy.Duration
import TableCopy.Text.Blank
import TableCopy.Error
import TableCopy.Config.Copy
import TableCopy.Config.Operational
import TableCopy.Plan.Capacity
import TableCopy.Plan.Section
import TableCopy.Retry
import TableCopy.Metrics
import TableCopy.Tracker
import TableCopy.Interrupt
import TableCopy.Client.Endpoint
import TableCopy.Client.Context
import TableCopy.Plan.Description
import TableCopy.Pacer
import TableCopy.Json.Basic
import TableCopy.Json.Printer
import TableCopy.Json.Parser
import TableCopy.Json.Record
import TableCopy.Config.Encoding
import TableCopy.Client.Connections
import TableCopy.Client.Failure
import TableCopy.Pool.Spec
import TableCopy.Pool.Basic
import TableCopy.Pool.Errand
import TableCopy.Pipeline.Simulation
import TableCopy.Job.Plan
import TableCopy.Job.Run
import TableCopy.Job.Encoding
import TableCopy.Text.Visible
import TableCopy.Text.Quoted
import TableCopy.Config.Path
import TableCopy.Config.Environment
import TableCopy.Text.Plain
import TableCopy.CommandLine.Option
import TableCopy.CommandLine.Usage
import TableCopy.CommandLine.Parse
import TableCopy.Pipeline.Journal
import TableCopy.Pipeline.Script
import TableCopy.Text.Base64
import TableCopy.Service.Attribute
import TableCopy.Service.Exchange
import TableCopy.Service.Transport
import TableCopy.Job.Perform
import TableCopy.Program
import TableCopy.Main
import TableCopy.Proofs.Copy.Conservation
import TableCopy.Proofs.Copy.Completeness
import TableCopy.Proofs.Copy.Budget
import TableCopy.Proofs.Job.Sections
import TableCopy.Proofs.Pool.Usage
import TableCopy.Proofs.Copy.Calls
import TableCopy.Proofs.Copy.Protocol
import TableCopy.Proofs.Copy.Verdict
import TableCopy.Proofs.Copy.Cause
import TableCopy.Proofs.Job.Check
import TableCopy.Proofs.Job.ExitStatus
import TableCopy.Proofs.Pool.Bounds
import TableCopy.Proofs.Pipeline.Pools
import TableCopy.Proofs.Copy.Stopping
import TableCopy.Proofs.Copy.Interruption
import TableCopy.Proofs.Copy.Repeats
import TableCopy.Proofs.Pipeline.Release
import TableCopy.Proofs.Copy.Segments
import TableCopy.Proofs.Copy.Chunks
import TableCopy.Proofs.Copy.Counts
import TableCopy.Proofs.Job.Report
import TableCopy.Proofs.Pool.Stranding
import TableCopy.Proofs.Pool.Steady
import TableCopy.Proofs.Copy.Parallelism
import TableCopy.Proofs.Copy.Resubmission
import TableCopy.Proofs.Copy.Refusal
import TableCopy.Proofs.Retry
import TableCopy.Proofs.Copy.Splitting
import TableCopy.Proofs.Copy.Paging
import TableCopy.Proofs.Job.Rates
import TableCopy.Proofs.Plan.Partition
import TableCopy.Proofs.Plan.SegmentCount
import TableCopy.Proofs.Job.FixedRate
import TableCopy.Proofs.Copy.Shifts
import TableCopy.Proofs.Copy.Accounts
import TableCopy.Proofs.Pool.Placement
import TableCopy.Proofs.Pacing.Charging
import TableCopy.Proofs.Tracker.Schedule
import TableCopy.Proofs.Job.Connections
import TableCopy.Proofs.Config.Constants
import TableCopy.Proofs.Backoff
import TableCopy.Proofs.Client.Endpoint
import TableCopy.Proofs.Metrics
import TableCopy.Proofs.Error
import TableCopy.Proofs.Interrupt
