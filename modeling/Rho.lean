import Rho.Theorems.AgentFile
import Rho.Theorems.AgentFileEdit
import Rho.Theorems.AgentResponse
import Rho.Theorems.Allocation
import Rho.Theorems.Audit
import Rho.Theorems.Bridge
import Rho.Theorems.Candidate
import Rho.Theorems.Compare
import Rho.Theorems.CompareFrame
import Rho.Theorems.CompareMirror
import Rho.Theorems.Cycle
import Rho.Theorems.DataView
import Rho.Theorems.Discovery
import Rho.Theorems.Effects
import Rho.Theorems.ErrorRange
import Rho.Theorems.Evidence
import Rho.Theorems.Execution
import Rho.Theorems.Frames
import Rho.Theorems.GeneratedOutput
import Rho.Theorems.GitReview
import Rho.Theorems.Glob
import Rho.Theorems.HostMatch
import Rho.Theorems.Intent
import Rho.Theorems.Lineage
import Rho.Theorems.Observation
import Rho.Theorems.Open
import Rho.Theorems.Outcomes
import Rho.Theorems.Package
import Rho.Theorems.PlotPayload
import Rho.Theorems.PluginCalls
import Rho.Theorems.PluginFs
import Rho.Theorems.PluginReplacement
import Rho.Theorems.PluginTimes
import Rho.Theorems.PluginWorkspace
import Rho.Theorems.Problems
import Rho.Theorems.ProjectFiles
import Rho.Theorems.ProjectSession
import Rho.Theorems.Publication
import Rho.Theorems.Render
import Rho.Theorems.Revalidation
import Rho.Theorems.Revision
import Rho.Theorems.Routing
import Rho.Theorems.SlotRace
import Rho.Theorems.SnapshotBudget
import Rho.Theorems.Snapshots
import Rho.Theorems.SwitchRace
import Rho.Theorems.Synchronization
import Rho.Theorems.Tombstones
