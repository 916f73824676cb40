import Sketchbook.Main
import Sketchbook.Settings.Reading
import Sketchbook.Unit.Reading
import Sketchbook.Proofs.Tree
import Sketchbook.Proofs.Placement
import Sketchbook.Proofs.Assembly
import Sketchbook.Proofs.Lifting
import Sketchbook.Proofs.Wrapping
import Sketchbook.Proofs.Encoding
import Sketchbook.Proofs.Insertion
import Sketchbook.Proofs.Spacing
import Sketchbook.Proofs.Comment
import Sketchbook.Proofs.Recording
import Sketchbook.Proofs.Lines
import Sketchbook.Proofs.Boundary
import Sketchbook.Proofs.Rendering
import Sketchbook.Proofs.Interleaving
import Sketchbook.Proofs.Neighbours
import Sketchbook.Proofs.CommentingOut
import Sketchbook.Proofs.Traversal
import Sketchbook.Proofs.Fitting
import Sketchbook.Proofs.Scanning
import Sketchbook.Proofs.Grounding
import Sketchbook.Proofs.Descending
import Sketchbook.Proofs.Reducing
import Sketchbook.Proofs.Recovering
import Sketchbook.Proofs.Resuming
import Sketchbook.Proofs.Deriving
import Sketchbook.Proofs.Layout
import Sketchbook.Proofs.Rows
import Sketchbook.Proofs.Totality
import Sketchbook.Proofs.Ending
import Sketchbook.Proofs.LineEnds
import Sketchbook.Proofs.Copying
import Sketchbook.Proofs.Finding
import Sketchbook.Proofs.Remark
import Sketchbook.Proofs.Enclosing
import Sketchbook.Proofs.Overloading
import Sketchbook.Proofs.Judging
import Sketchbook.Proofs.Documents
import Sketchbook.Proofs.Effects
import Sketchbook.Proofs.Completing
import Sketchbook.Proofs.Extending
import Sketchbook.Proofs.Naming
import Sketchbook.Proofs.Blanking
