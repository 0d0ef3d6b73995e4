import Stencil.Datum.OfValue
import Stencil.Datum.Read
import Stencil.Proofs.Containment
import Stencil.Proofs.Declining
import Stencil.Proofs.FailureActions
import Stencil.Proofs.Grammar
import Stencil.Proofs.MatchingBrace
import Stencil.Proofs.Recovery
import Stencil.Proofs.RoundTrip
import Stencil.Proofs.Tiling
import Stencil.Sample
import Stencil.Session
import Stencil.Standard
import Stencil.Template.Written
import Stencil.Proofs.Session.Course
import Stencil.Proofs.Session.Kept
import Stencil.Proofs.Caching
import Stencil.Proofs.Depth
import Stencil.Proofs.Concatenation
import Stencil.Proofs.Verbatim
import Stencil.Proofs.Escaping
import Stencil.Proofs.WellFormed
import Stencil.Proofs.Transparency
import Stencil.Proofs.Session.Uses
import Stencil.Proofs.Partition
import Stencil.Proofs.Choices
import Stencil.Proofs.Options
import Stencil.Proofs.CharLiterals
import Stencil.Proofs.Lookup
import Stencil.Proofs.Text.AsciiCase
import Stencil.Proofs.Render.Claims
import Stencil.Proofs.Render.Reports
import Stencil.Proofs.Dispatch
import Stencil.Proofs.Render.Added
import Stencil.Proofs.Lists
import Stencil.Proofs.Number.Whole
import Stencil.Proofs.Conditionals
import Stencil.Proofs.Alignment
import Stencil.Proofs.Members
import Stencil.Proofs.Serialized
import Stencil.Proofs.TypedData
import Stencil.Proofs.Integers
import Stencil.Proofs.Places
import Stencil.Proofs.Diagnostics
