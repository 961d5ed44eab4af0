import SettingsCache.Block.InProcess
import SettingsCache.Block.Mapped
import SettingsCache.Config.Document
import SettingsCache.Config.Environment
import SettingsCache.Datum
import SettingsCache.Proofs.Asking
import SettingsCache.Proofs.Block.Agreement
import SettingsCache.Proofs.Block.Format
import SettingsCache.Proofs.Coherence.Misnamed
import SettingsCache.Proofs.Coherence.Told
import SettingsCache.Proofs.Handles.Kept
import SettingsCache.Proofs.Healing
import SettingsCache.Proofs.Isolation.Foreign
import SettingsCache.Proofs.Isolation.Namespaces
import SettingsCache.Proofs.Isolation.Users
import SettingsCache.Proofs.Overlap.Perform
import SettingsCache.Proofs.Provenance
import SettingsCache.Proofs.Refinement
import SettingsCache.Proofs.Representation
import SettingsCache.Proofs.Routes
import SettingsCache.Proofs.Service.Defaults
import SettingsCache.Proofs.Service.Verbs
import SettingsCache.Proofs.SwitchedOff
import SettingsCache.Proofs.TableNames
import SettingsCache.Proofs.Tracking
import SettingsCache.Proofs.Typed.Floats
import SettingsCache.Proofs.Writes
import SettingsCache.Scenario.Report
