import FrontEnd.Assembly
import FrontEnd.Grammar.Call
import FrontEnd.Grammar.Report
import FrontEnd.Proofs.Mentions
import FrontEnd.Proofs.Growth
import FrontEnd.Proofs.Layers
import FrontEnd.Proofs.Runs
import FrontEnd.Proofs.WellFormed
import FrontEnd.Proofs.Derivation
import FrontEnd.Proofs.First
import FrontEnd.Proofs.Concatenation
import FrontEnd.Proofs.Follow
import FrontEnd.Proofs.LeastFollow
import FrontEnd.Proofs.PassCounts
import FrontEnd.Proofs.Analysis
import FrontEnd.Proofs.Arrangements
import FrontEnd.Proofs.Uses
import FrontEnd.Proofs.Histories
import FrontEnd.Proofs.Numbering
import FrontEnd.Proofs.Listing
import FrontEnd.Proofs.Writing
import FrontEnd.Proofs.Chains
import FrontEnd.Proofs.References
import FrontEnd.Proofs.Replies
import FrontEnd.Proofs.Precedences
import FrontEnd.Proofs.Restarts
import FrontEnd.Proofs.Marks
import FrontEnd.Proofs.Usage
import FrontEnd.Proofs.Diagnostics
import FrontEnd.Proofs.Places
import FrontEnd.Proofs.Pulls
import FrontEnd.Proofs.Tiling
import FrontEnd.Proofs.Positions
import FrontEnd.Proofs.Failures
import FrontEnd.Proofs.Order
import FrontEnd.Proofs.Counters
import FrontEnd.Proofs.Rests
import FrontEnd.Proofs.Dropping
import FrontEnd.Proofs.Extending
import FrontEnd.Proofs.Alphabet
import FrontEnd.Proofs.Settling
