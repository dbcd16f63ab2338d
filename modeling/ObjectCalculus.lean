import ObjectCalculus.Session.Run
import ObjectCalculus.Config.Folder
import ObjectCalculus.Proofs.Invariance
import ObjectCalculus.Proofs.Reading
import ObjectCalculus.Proofs.Writing
import ObjectCalculus.Proofs.Activity
import ObjectCalculus.Proofs.Growth
import ObjectCalculus.Proofs.Stack
import ObjectCalculus.Proofs.Folding
import ObjectCalculus.Proofs.Gathering
import ObjectCalculus.Proofs.Content
import ObjectCalculus.Proofs.Graph
import ObjectCalculus.Proofs.Runs
import ObjectCalculus.Proofs.Settled
import ObjectCalculus.Proofs.Simulation
import ObjectCalculus.Proofs.Ground
import ObjectCalculus.Proofs.Meaning
import ObjectCalculus.Proofs.Cycles
import ObjectCalculus.Proofs.Permanence
import ObjectCalculus.Proofs.Filing
import ObjectCalculus.Proofs.Moments
import ObjectCalculus.Proofs.Footprint
import ObjectCalculus.Proofs.Room
import ObjectCalculus.Proofs.Purity
import ObjectCalculus.Proofs.Monotony
import ObjectCalculus.Proofs.Repetition
import ObjectCalculus.Proofs.Isolation
import ObjectCalculus.Proofs.Boundary
import ObjectCalculus.Proofs.Machine
import ObjectCalculus.Proofs.Termination
import ObjectCalculus.Proofs.RoundTrip
import ObjectCalculus.Proofs.Raising
import ObjectCalculus.Proofs.Domain
import ObjectCalculus.Proofs.Tracing
import ObjectCalculus.Proofs.Calling
import ObjectCalculus.Proofs.Finding
import ObjectCalculus.Proofs.Operands
import ObjectCalculus.Proofs.Arithmetic
import ObjectCalculus.Proofs.Accesses
import ObjectCalculus.Proofs.Transfer
import ObjectCalculus.Proofs.Records
import ObjectCalculus.Proofs.Copying
import ObjectCalculus.Proofs.Extension
import ObjectCalculus.Proofs.Attempts
import ObjectCalculus.Proofs.Resolving
import ObjectCalculus.Proofs.Divisors
import ObjectCalculus.Proofs.Naming
import ObjectCalculus.Proofs.Division
import ObjectCalculus.Proofs.Gaps
import ObjectCalculus.Proofs.Building
import ObjectCalculus.Proofs.Reporting
import ObjectCalculus.Proofs.Deferring
import ObjectCalculus.Proofs.Wrapping
import ObjectCalculus.Proofs.Publishing
import ObjectCalculus.Proofs.Rendering
import ObjectCalculus.Proofs.Numbers
import ObjectCalculus.Proofs.Equality
import ObjectCalculus.Proofs.Octets
import ObjectCalculus.Proofs.Numerals
import ObjectCalculus.Proofs.Documents
import ObjectCalculus.Proofs.Integers
import ObjectCalculus.Proofs.Folders
import ObjectCalculus.Proofs.Printing
import ObjectCalculus.Proofs.Saving
import ObjectCalculus.Proofs.Atomicity
import ObjectCalculus.Proofs.Declaring
import ObjectCalculus.Proofs.Honesty
import ObjectCalculus.Proofs.Closure
import ObjectCalculus.Proofs.Safety
import ObjectCalculus.Proofs.Labels
import ObjectCalculus.Proofs.Sessions
