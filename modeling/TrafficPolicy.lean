import TrafficPolicy.Engine.Watched
import TrafficPolicy.FileTree
import TrafficPolicy.KillSwitch
import TrafficPolicy.Main
import TrafficPolicy.Proofs.Address.ReadBack
import TrafficPolicy.Proofs.AppId
import TrafficPolicy.Proofs.Engine.Deliveries
import TrafficPolicy.Proofs.Engine.Front
import TrafficPolicy.Proofs.Engine.LiveWrites
import TrafficPolicy.Proofs.Engine.History
import TrafficPolicy.Proofs.Engine.Integrity
import TrafficPolicy.Proofs.Engine.Ranking
import TrafficPolicy.Proofs.Engine.Renaming
import TrafficPolicy.Proofs.Engine.OpenTransaction
import TrafficPolicy.Proofs.Engine.Withdrawn
import TrafficPolicy.Proofs.Engine.Closing
import TrafficPolicy.Proofs.Engine.Refusals
import TrafficPolicy.Proofs.Engine.Tenancy
import TrafficPolicy.Proofs.Engine.TenantCalls
import TrafficPolicy.Proofs.Engine.TenantTables
import TrafficPolicy.Proofs.Engine.Company
import TrafficPolicy.Proofs.Install.Stage
import TrafficPolicy.Proofs.Install.StageTenancy
import TrafficPolicy.Proofs.Install.Concurrent
import TrafficPolicy.Proofs.Install.Conversation
import TrafficPolicy.Proofs.Install.Building
import TrafficPolicy.Proofs.Install.TornDown
import TrafficPolicy.Proofs.Install.Unhindered
import TrafficPolicy.Proofs.Policy.Compile
import TrafficPolicy.Proofs.Policy.Appended
import TrafficPolicy.Proofs.Policy.Attempts
import TrafficPolicy.Proofs.Policy.Expands
import TrafficPolicy.Proofs.Policy.Conditions
import TrafficPolicy.Proofs.Policy.FanOut
import TrafficPolicy.Proofs.Policy.Narrowed
import TrafficPolicy.Proofs.Policy.Printed
import TrafficPolicy.Proofs.Policy.Spelling
import TrafficPolicy.Proofs.KillSwitch
import TrafficPolicy.Proofs.KillSwitch.Applied
import TrafficPolicy.Proofs.KillSwitch.Failure
import TrafficPolicy.Proofs.KillSwitch.Turns
import TrafficPolicy.Proofs.KillSwitch.Recorded
import TrafficPolicy.Proofs.KillSwitch.Exposure
import TrafficPolicy.Proofs.KillSwitch.Committed
import TrafficPolicy.Proofs.KillSwitch.Routes
import TrafficPolicy.Proofs.KillSwitch.Repeated
import TrafficPolicy.Proofs.Verdict.Prevailing
import TrafficPolicy.Proofs.Verdict.Coverage
import TrafficPolicy.Proofs.Verdict.LastDeclared
import TrafficPolicy.Proofs.Verdict.LiveFilters
import TrafficPolicy.Proofs.Verdict.Matching
import TrafficPolicy.Proofs.Verdict.Parts
import TrafficPolicy.Proofs.Verdict.Rearranged
import TrafficPolicy.Proofs.Verdict.Settings
import TrafficPolicy.Proofs.Policy.Weights
import TrafficPolicy.Proofs.Policy.WeightSpace
import TrafficPolicy.Proofs.Policy.Lookups
import TrafficPolicy.Proofs.Policy.Obstacles
import TrafficPolicy.Proofs.Policy.ValidSettings
import TrafficPolicy.Proofs.Plan
import TrafficPolicy.Proofs.Text.Utf16
import TrafficPolicy.Proofs.Text.ZeroBytes
