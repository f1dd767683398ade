import Stencil.Description
import Stencil.Properties
import Stencil.Proofs.Engine.Transparency
import Stencil.Proofs.Engine.Invalidation
import Stencil.Proofs.Engine.Ending
import Stencil.Proofs.Engine.Isolation
import Stencil.Proofs.Engine.Recovery
import Stencil.Proofs.Engine.Staleness
import Stencil.Proofs.Engine.Insertion
import Stencil.Proofs.Engine.Unreadable
import Stencil.Proofs.Engine.Statelessness
import Stencil.Proofs.Engine.Consistency
import Stencil.Proofs.Engine.Expiry
import Stencil.Proofs.Manager.Renewal
import Stencil.Proofs.Manager.Seclusion
import Stencil.Proofs.Manager.Shadowing
import Stencil.Proofs.Engine.Strictness
import Stencil.Proofs.Engine.Accounting
import Stencil.Proofs.Engine.Traces
import Stencil.Proofs.Engine.Skipping
import Stencil.Proofs.Source.Attribution
import Stencil.Proofs.Source.Lineage
import Stencil.Proofs.Source.Listing
import Stencil.Proofs.Engine.Recall
import Stencil.Proofs.Engine.Visibility
import Stencil.Proofs.Engine.Passing
import Stencil.Proofs.Manager.Substitution
import Stencil.Proofs.Source.Scanning
import Stencil.Proofs.Manager.Likeness
