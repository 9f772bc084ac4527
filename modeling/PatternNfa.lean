import PatternNfa.Arena.Construction
import PatternNfa.CommandLine
import PatternNfa.Main
import PatternNfa.Nfa.Acceptance
import PatternNfa.Proofs.Composition
import PatternNfa.Proofs.Cycles
import PatternNfa.Proofs.Denotation
import PatternNfa.Proofs.Depth
import PatternNfa.Proofs.DepthFirst
import PatternNfa.Proofs.Explicit
import PatternNfa.Proofs.Grouping
import PatternNfa.Proofs.Growth
import PatternNfa.Proofs.Offsets
import PatternNfa.Proofs.Precedence
import PatternNfa.Proofs.Reordering
import PatternNfa.Proofs.Runs
import PatternNfa.Proofs.Size
import PatternNfa.Proofs.Scanning
import PatternNfa.Proofs.Spelling
import PatternNfa.Proofs.Lines
import PatternNfa.Proofs.Listing
import PatternNfa.Proofs.Transcript
