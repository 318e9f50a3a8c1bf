import Provisioning.Journal
import Provisioning.Journal.Loading
import Provisioning.Log.Outlet
import Provisioning.Proofs.ItemState
import Provisioning.Proofs.KeptForm
import Provisioning.Proofs.FieldWrites
import Provisioning.Proofs.DictWrites
import Provisioning.Proofs.FlatState
import Provisioning.Proofs.FoundAsWritten
import Provisioning.Proofs.InterfaceSearch
import Provisioning.Proofs.Criteria
import Provisioning.Proofs.ParentWalk
import Provisioning.Query
import Provisioning.Text.Lines
import Provisioning.Value.Json
import Provisioning.Proofs.MergedMapping
import Provisioning.Proofs.NearestValue
import Provisioning.Proofs.DepthFirst
import Provisioning.Proofs.Layers
import Provisioning.Proofs.ResolvedValue
import Provisioning.Proofs.ResolvedForm
import Provisioning.Proofs.SettingsCheck
import Provisioning.Proofs.ValueTypes
import Provisioning.Proofs.Fallback
import Provisioning.Proofs.Obstacle
import Provisioning.Proofs.Unvisited
import Provisioning.Proofs.ConceptualParent
import Provisioning.Proofs.Namesakes
import Provisioning.Proofs.ForetoldFailures
import Provisioning.Proofs.FiledNames
import Provisioning.Proofs.JsonForm
import Provisioning.Proofs.SettingsLayers
import Provisioning.Proofs.Wildcards
import Provisioning.Proofs.ChoiceReadings
import Provisioning.Proofs.Overlays
