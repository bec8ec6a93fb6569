import LedDriver.Bench.Crowd
import LedDriver.Bench.Parts
import LedDriver.Bench.Scenario
import LedDriver.Bench.Waiting
import LedDriver.System.Interleaving
import LedDriver.Proofs.Command.Table
import LedDriver.Proofs.System.Memory
import LedDriver.Proofs.System.Scope
import LedDriver.Proofs.System.Runs
import LedDriver.Proofs.System.Turns
import LedDriver.Proofs.System.Trees
import LedDriver.Proofs.System.Sights
import LedDriver.Proofs.System.Discretion
import LedDriver.Proofs.System.Behalf
import LedDriver.Proofs.ControlBlock.Latch
import LedDriver.Proofs.Command.Start
import LedDriver.Proofs.Command.Forwarding
import LedDriver.Proofs.Lifecycle.Stage
import LedDriver.Proofs.Lifecycle.Ledger
import LedDriver.Proofs.Lifecycle.Accounting
import LedDriver.Proofs.Lifecycle.Record
import LedDriver.Proofs.Lifecycle.References
import LedDriver.Proofs.Lifecycle.Ownership
import LedDriver.Proofs.Rejection.Rejected
import LedDriver.Proofs.Rejection.Erasure
import LedDriver.Proofs.Nesting.Mask
import LedDriver.Proofs.Nesting.Brackets
import LedDriver.Proofs.Nesting.Exclusion
import LedDriver.Proofs.Nesting.Interrupts
import LedDriver.Proofs.Serial.Phases
import LedDriver.Proofs.Serial.Hardware
import LedDriver.Proofs.Serial.Order
import LedDriver.Proofs.Serial.History
import LedDriver.Proofs.Serial.Replay
import LedDriver.Proofs.Serial.Serializability
import LedDriver.Proofs.System.Services
import LedDriver.Proofs.LowerHalf.Operations
import LedDriver.Proofs.Registration.Outcome
import LedDriver.Proofs.Registration.Record
import LedDriver.Proofs.Registration.Table
import LedDriver.Proofs.Registration.History
import LedDriver.Proofs.LowerHalf.Wiring
import LedDriver.Proofs.System.Moments
import LedDriver.Proofs.Settings.Setting
import LedDriver.Proofs.Settings.Storing
import LedDriver.Proofs.Settings.Deciding
import LedDriver.Proofs.Settings.Sequential
import LedDriver.Proofs.Settings.Linearization
import LedDriver.Proofs.Locking.Holding
import LedDriver.Proofs.Locking.Freedom
import LedDriver.Proofs.ControlBlock.Range
import LedDriver.Proofs.Independence.Commands
import LedDriver.Proofs.Independence.Lifecycle
import LedDriver.Proofs.Independence.Sparing
import LedDriver.Proofs.Isolation.Fleet
import LedDriver.Proofs.Isolation.Likeness
import LedDriver.Proofs.Isolation.Driver
import LedDriver.Proofs.Isolation.Runs
import LedDriver.Proofs.Isolation.Interleaving
import LedDriver.Proofs.Binary32.Value
import LedDriver.Proofs.DeviceError.Errno
import LedDriver.Proofs.DeviceError.RoundTrip
import LedDriver.Proofs.SetupPolicy.Unseen
import LedDriver.Proofs.SetupPolicy.Attempt
import LedDriver.Proofs.SetupPolicy.Retry
import LedDriver.Proofs.SetupPolicy.Concealment
import LedDriver.Proofs.Journal.Lines
import LedDriver.Proofs.Journal.Account
import LedDriver.Proofs.Semaphore.Attempts
import LedDriver.Proofs.Semaphore.Protocol
import LedDriver.Proofs.Semaphore.Conservation
import LedDriver.Proofs.Semaphore.Waiting
import LedDriver.Proofs.Faults.Changes
import LedDriver.Proofs.Faults.History
