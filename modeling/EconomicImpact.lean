import EconomicImpact.Benchmark
import EconomicImpact.Caching
import EconomicImpact.CommandLine.Arguments
import EconomicImpact.CommandLine.Help
import EconomicImpact.CommandLine.Program
import EconomicImpact.Constraint.Basic
import EconomicImpact.Constraint.Kind
import EconomicImpact.Constraint.Resolution
import EconomicImpact.Constraint.Validation
import EconomicImpact.ContentId
import EconomicImpact.Decimal.Binary
import EconomicImpact.Decimal.Fixed
import EconomicImpact.Decimal.Reading
import EconomicImpact.Decimal.Shortest
import EconomicImpact.Digest.Sha256
import EconomicImpact.Economy.Balancing
import EconomicImpact.Economy.Model
import EconomicImpact.Economy.Registry
import EconomicImpact.Fault
import EconomicImpact.Fault.Message
import EconomicImpact.Feasibility.Basis
import EconomicImpact.Feasibility.Clipping
import EconomicImpact.Feasibility.Deviation
import EconomicImpact.Feasibility.LinearProgram
import EconomicImpact.Feasibility.Result
import EconomicImpact.Feasibility.Simplex
import EconomicImpact.Feasibility.Solve
import EconomicImpact.Finding
import EconomicImpact.Json.Decode
import EconomicImpact.Json.Printer
import EconomicImpact.Json.Reader
import EconomicImpact.Json.Value
import EconomicImpact.Leontief.Impact
import EconomicImpact.Leontief.Inverse
import EconomicImpact.LruCache
import EconomicImpact.Main
import EconomicImpact.OrderedMap
import EconomicImpact.Proofs.Caching
import EconomicImpact.Proofs.Constraint.Bound
import EconomicImpact.Proofs.Constraint.Conflict
import EconomicImpact.Proofs.Constraint.Resolution
import EconomicImpact.Proofs.Economy.Model
import EconomicImpact.Proofs.Fault
import EconomicImpact.Proofs.Feasibility.Attainable
import EconomicImpact.Proofs.Feasibility.Clipping
import EconomicImpact.Proofs.Feasibility.Composition
import EconomicImpact.Proofs.Feasibility.Deviation
import EconomicImpact.Proofs.Feasibility.HardBounds
import EconomicImpact.Proofs.Feasibility.Infeasible
import EconomicImpact.Proofs.Feasibility.Report
import EconomicImpact.Proofs.Feasibility.Restraint
import EconomicImpact.Proofs.Feasibility.SectorClip
import EconomicImpact.Proofs.Feasibility.SectorOptimum
import EconomicImpact.Proofs.Feasibility.Slack
import EconomicImpact.Proofs.Feasibility.Snapping
import EconomicImpact.Proofs.Feasibility.Solve
import EconomicImpact.Proofs.Feasibility.Unchanged
import EconomicImpact.Proofs.Feasibility.Window
import EconomicImpact.Proofs.Json.Decode
import EconomicImpact.Proofs.Json.Number
import EconomicImpact.Proofs.Json.Text
import EconomicImpact.Proofs.Leontief.Accounting
import EconomicImpact.Proofs.Leontief.Inverse
import EconomicImpact.Proofs.Leontief.Productive
import EconomicImpact.Proofs.LruCache
import EconomicImpact.Proofs.OrderedMap
import EconomicImpact.Proofs.Outcome
import EconomicImpact.Proofs.Record.Constraint
import EconomicImpact.Proofs.Record.Schedule
import EconomicImpact.Proofs.Reordering.Accounts
import EconomicImpact.Proofs.Reordering.Clipping
import EconomicImpact.Proofs.Reordering.Constraint
import EconomicImpact.Proofs.Reordering.Feasibility
import EconomicImpact.Proofs.Reordering.Model
import EconomicImpact.Proofs.Reordering.SectorOrder
import EconomicImpact.Proofs.Reordering.Vector
import EconomicImpact.Proofs.Run.Batch
import EconomicImpact.Proofs.Run.Blocking
import EconomicImpact.Proofs.Run.History
import EconomicImpact.Proofs.Run.Label
import EconomicImpact.Proofs.Run.LaterYears
import EconomicImpact.Proofs.Run.Sensitivity
import EconomicImpact.Proofs.Run.Session
import EconomicImpact.Proofs.Run.Solving
import EconomicImpact.Proofs.Run.Stages
import EconomicImpact.Proofs.Scalar.Exact
import EconomicImpact.Proofs.Scalar.Extended
import EconomicImpact.Proofs.Scalar.Ordered
import EconomicImpact.Proofs.SectorVector
import EconomicImpact.Proofs.Shock.Phased
import EconomicImpact.Proofs.Shock.Scaling
import EconomicImpact.Proofs.Shock.Schedule
import EconomicImpact.Proofs.Table.Inverse
import EconomicImpact.Proofs.Table.Matrix
import EconomicImpact.Proofs.Uuid
import EconomicImpact.Proofs.WorkerPool
import EconomicImpact.Proofs.Workforce.Breakdown
import EconomicImpact.Proofs.Workforce.Ranges
import EconomicImpact.Record.Benchmark
import EconomicImpact.Record.Coefficients
import EconomicImpact.Record.Constraint
import EconomicImpact.Record.Feasibility
import EconomicImpact.Record.Model
import EconomicImpact.Record.Run
import EconomicImpact.Record.Settings
import EconomicImpact.Record.Shock
import EconomicImpact.Record.Vector
import EconomicImpact.Record.Workforce
import EconomicImpact.Run.Basic
import EconomicImpact.Run.Batch
import EconomicImpact.Run.Session
import EconomicImpact.Satellite
import EconomicImpact.Scalar
import EconomicImpact.SectorVector
import EconomicImpact.Settings
import EconomicImpact.Settings.Load
import EconomicImpact.Settings.Variable
import EconomicImpact.Shock.Phased
import EconomicImpact.Shock.Schedule
import EconomicImpact.Table
import EconomicImpact.Table.Inverse
import EconomicImpact.Table.Spectrum
import EconomicImpact.Text.Blank
import EconomicImpact.Text.Mark
import EconomicImpact.Text.Numeral
import EconomicImpact.Text.Quoted
import EconomicImpact.Text.Timestamp
import EconomicImpact.Toml.Document
import EconomicImpact.Toml.Printer
import EconomicImpact.Toml.Reader
import EconomicImpact.Toml.Scalar
import EconomicImpact.Uuid
import EconomicImpact.Workforce.Bridge
import EconomicImpact.Workforce.Compliance
import EconomicImpact.Workforce.Decomposition
import EconomicImpact.Workforce.Tier
import EconomicImpact.Proofs.Economy.Balancing
import EconomicImpact.Proofs.Economy.Convergence
import EconomicImpact.Proofs.Economy.Checksum
import EconomicImpact.Proofs.Alignment
import EconomicImpact.Proofs.Constraint.Validation
import EconomicImpact.Proofs.Leontief.Multipliers
import EconomicImpact.Proofs.Feasibility.OneSided
import EconomicImpact.Proofs.Feasibility.Fallback
import EconomicImpact.Proofs.VectorOrigin
import EconomicImpact.Proofs.Benchmark
import EconomicImpact.Proofs.Satellite
import EconomicImpact.Proofs.Workforce.Compliance
import EconomicImpact.Proofs.Feasibility.Enablers
import EconomicImpact.Proofs.Record.Identity
