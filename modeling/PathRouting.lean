import PathRouting.Config.Load
import PathRouting.Regex
import PathRouting.Router
import PathRouting.Toml
import PathRouting.Proofs.Arrangement
import PathRouting.Proofs.Placement
import PathRouting.Proofs.Insertion
import PathRouting.Proofs.Record
import PathRouting.Proofs.History
import PathRouting.Proofs.Candidate
import PathRouting.Proofs.Specificity
import PathRouting.Proofs.Verdict
import PathRouting.Proofs.Coverage
import PathRouting.Proofs.Captures
import PathRouting.Proofs.Compatibility
import PathRouting.Proofs.Canonical
import PathRouting.Proofs.Regularity
import PathRouting.Proofs.ByteOrder
import PathRouting.Proofs.Listing
import PathRouting.Proofs.Reordering
import PathRouting.Proofs.Extension
import PathRouting.Proofs.Modes
import PathRouting.Proofs.EventLog
import PathRouting.Proofs.Undo
import PathRouting.Proofs.Grammar
import PathRouting.Proofs.Spelling
import PathRouting.Proofs.Coherence
import PathRouting.Proofs.Decoding
import PathRouting.Proofs.Quotation
import PathRouting.Proofs.Loading
