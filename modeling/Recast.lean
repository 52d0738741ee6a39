import Recast.Json.Bridge
import Recast.Proofs.Json.Conversion
import Recast.Proofs.Record.Overlay
import Recast.Proofs.Registry.Culprit
import Recast.Proofs.Registry.Elements
import Recast.Proofs.Registry.Erasure
import Recast.Proofs.Registry.ErrorPaths
import Recast.Proofs.Registry.Omission
import Recast.Proofs.Registry.Refusing
import Recast.Proofs.Registry.Reordering
import Recast.Proofs.Registry.Respecting
import Recast.Proofs.Registry.Standalone
import Recast.Proofs.RoundTrip.Clearing
import Recast.Proofs.RoundTrip.Plain
import Recast.Proofs.TypeExpr.Faults
import Recast.Proofs.Value.NumericEquality
import Recast.Proofs.Value.Removal
import Recast.Proofs.Value.Stopping
import Recast.Report
import Recast.Value.Display
