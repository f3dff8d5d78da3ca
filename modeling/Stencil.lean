import Stencil.Engine.Inspect
import Stencil.Proofs.Grammar.Depth
import Stencil.Proofs.Grammar.Structure
import Stencil.Proofs.Grammar.Template
import Stencil.Proofs.Lexeme.Splits
import Stencil.Proofs.Lexeme.Tiling
import Stencil.Proofs.Render.Composition
import Stencil.Proofs.Render.Erasure
import Stencil.Proofs.Render.Sequence
import Stencil.Proofs.Tree.Location
import Stencil.Proofs.Tree.Persistence
import Stencil.Proofs.Tree.ReadBack
import Stencil.Proofs.Tree.Reload
import Stencil.Report
import Stencil.Tree.Document
import Stencil.Value.Document
import Stencil.Proofs.Parser.Grounded
import Stencil.Proofs.Tree.Normal
import Stencil.Proofs.Entries
import Stencil.Proofs.Render.Invocation
import Stencil.Proofs.Render.Normal
import Stencil.Proofs.Engine.Families
import Stencil.Proofs.Render.Block
import Stencil.Proofs.Grammar.Descent
import Stencil.Proofs.Render.Path
import Stencil.Proofs.Render.Refusal
import Stencil.Proofs.Tree.Shallow
import Stencil.Proofs.Render.Agreement
import Stencil.Proofs.Grammar.Respacing
import Stencil.Proofs.Value.Document
import Stencil.Proofs.Parser.Choice
import Stencil.Proofs.Grammar.Termination
import Stencil.Proofs.Token.Literal
