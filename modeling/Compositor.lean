import Compositor.Backend.Basic
import Compositor.Boundary.Driver
import Compositor.Main
import Compositor.Painting.NullPainter
import Compositor.Proofs.Bridging
import Compositor.Proofs.BringUp
import Compositor.Proofs.Catalogue
import Compositor.Proofs.Composing
import Compositor.Proofs.Conservation
import Compositor.Proofs.Creation
import Compositor.Proofs.CurrentContext
import Compositor.Proofs.Deafness
import Compositor.Proofs.Drawable
import Compositor.Proofs.Ensures
import Compositor.Proofs.Enumeration
import Compositor.Proofs.ErrorDrain
import Compositor.Proofs.ErrorIndifference
import Compositor.Proofs.ErrorQueue
import Compositor.Proofs.FirstFailure
import Compositor.Proofs.Flipping
import Compositor.Proofs.Footprint
import Compositor.Proofs.Handling
import Compositor.Proofs.HomeDirectory
import Compositor.Proofs.Ledger
import Compositor.Proofs.Lifecycle
import Compositor.Proofs.Monitor
import Compositor.Proofs.Offers
import Compositor.Proofs.Operation
import Compositor.Proofs.Parsing
import Compositor.Proofs.Placement
import Compositor.Proofs.Preference
import Compositor.Proofs.Readiness
import Compositor.Proofs.Reordering
import Compositor.Proofs.Requests
import Compositor.Proofs.Requirement
import Compositor.Proofs.Resources
import Compositor.Proofs.Selection
import Compositor.Proofs.Session
import Compositor.Proofs.Standing
import Compositor.Proofs.Teardown
import Compositor.Proofs.Tenure
import Compositor.Proofs.Texturing
import Compositor.Proofs.Tokens
import Compositor.Proofs.WindowMap
import Compositor.Proofs.Written
import Compositor.Proofs.FileTree
import Compositor.Proofs.RoundTrip
import Compositor.Proofs.Fields
import Compositor.Proofs.TableChanges
import Compositor.Proofs.DistinctNames
import Compositor.Proofs.GivenFields
import Compositor.Proofs.UnknownNames
import Compositor.Proofs.KnownFields
import Compositor.Proofs.Probing
