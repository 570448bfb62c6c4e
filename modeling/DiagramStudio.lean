import DiagramStudio.Diagram.Schema
import DiagramStudio.Proofs.Canvas.Deletion
import DiagramStudio.Proofs.Canvas.Geometry
import DiagramStudio.Proofs.Canvas.Refusal
import DiagramStudio.Proofs.Canvas.Survival
import DiagramStudio.Proofs.Canvas.Uploads
import DiagramStudio.Proofs.Diagram.Patch
import DiagramStudio.Proofs.Graph.Minting
import DiagramStudio.Proofs.Graph.NoReuse
import DiagramStudio.Proofs.Graph.Painting
import DiagramStudio.Proofs.Graph.Patching
import DiagramStudio.Proofs.Graph.Replacement
import DiagramStudio.Proofs.Graph.RoundTrip
import DiagramStudio.Proofs.Graph.Version
import DiagramStudio.Proofs.Inspector.Confinement
import DiagramStudio.Proofs.Inspector.Edit
import DiagramStudio.Proofs.Service.Explanation
import DiagramStudio.Proofs.Service.Reply
import DiagramStudio.Proofs.Service.Template
import DiagramStudio.Proofs.Session.Arrival
import DiagramStudio.Proofs.Session.Closing
import DiagramStudio.Proofs.Session.Interference
import DiagramStudio.Proofs.Session.Notices
import DiagramStudio.Proofs.Session.Supersession
import DiagramStudio.Proofs.Session.Vain
import DiagramStudio.Proofs.Web.Escape
import DiagramStudio.Service.Client
import DiagramStudio.Session.Desk
