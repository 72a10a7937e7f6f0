import TilerMapping.Fleet
import TilerMapping.Main
import TilerMapping.MemoryDriver
import TilerMapping.Pool
import TilerMapping.ScriptedKernel
import TilerMapping.Proofs.Holdings
import TilerMapping.Proofs.Conduct
import TilerMapping.Proofs.Ownership
import TilerMapping.Proofs.Provenance
import TilerMapping.Proofs.Interleaving
import TilerMapping.Proofs.Settlement
import TilerMapping.Proofs.Store
import TilerMapping.Proofs.Completion
import TilerMapping.Proofs.Reversal
import TilerMapping.Proofs.Codec
import TilerMapping.Proofs.DeviceReversal
import TilerMapping.Proofs.Allocation
import TilerMapping.Proofs.Coverage
import TilerMapping.Proofs.Acceptance
import TilerMapping.Proofs.Exactness
import TilerMapping.Proofs.Verdicts
import TilerMapping.Proofs.Placement
import TilerMapping.Proofs.Separation
import TilerMapping.Proofs.Overrun
import TilerMapping.Proofs.Release
import TilerMapping.Proofs.Contention
import TilerMapping.Proofs.Commutation
import TilerMapping.Proofs.ExactSize
import TilerMapping.Proofs.RoundTrip
import TilerMapping.Proofs.Passage
import TilerMapping.Proofs.Registrability
import TilerMapping.Proofs.DeviceRelease
import TilerMapping.Proofs.Measurement
import TilerMapping.Proofs.LedgerHistory
import TilerMapping.Proofs.Status
import TilerMapping.Proofs.Reporting
import TilerMapping.Proofs.PageBoundary
import TilerMapping.Proofs.RequestFields
