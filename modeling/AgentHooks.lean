import AgentHooks.Main
import AgentHooks.Proofs.Service.Bounds
import AgentHooks.Proofs.Service.Resume
import AgentHooks.Proofs.Hook.Transcript
import AgentHooks.Proofs.Loop.Marker
import AgentHooks.Proofs.Timestamp.Reading
import AgentHooks.Proofs.Wire.Reading
import AgentHooks.Proofs.Policy.Frame
import AgentHooks.Proofs.Service.Frame
import AgentHooks.Proofs.Service.Prompts
import AgentHooks.Proofs.Service.Advice
import AgentHooks.Proofs.Service.Conversation
import AgentHooks.Proofs.Service.Audit
import AgentHooks.Proofs.Service.Order
import AgentHooks.Proofs.Json.Canonical
import AgentHooks.Proofs.Wire.Stable
import AgentHooks.Proofs.Contract.RoundTrip
import AgentHooks.Proofs.Files.Course
import AgentHooks.Proofs.Loop.Store
import AgentHooks.Proofs.Loop.History
import AgentHooks.Proofs.Policy.Memory
import AgentHooks.Proofs.Service.Deletion
import AgentHooks.Proofs.Service.Switches
import AgentHooks.Proofs.Serving.Framing
import AgentHooks.Proofs.Service.Effects
import AgentHooks.Proofs.Service.Transparency
import AgentHooks.Proofs.Service.Faithful
import AgentHooks.Proofs.Settings.Stable
import AgentHooks.Proofs.Settings.Independence
import AgentHooks.Proofs.Settings.WellFormed
import AgentHooks.Proofs.Pressure.Window
import AgentHooks.Proofs.Pressure.Escalation
import AgentHooks.Proofs.Pressure.Sustained
import AgentHooks.Proofs.Pressure.Monitor
import AgentHooks.Proofs.Service.Limits
import AgentHooks.Proofs.Service.Cooldowns
import AgentHooks.Proofs.Service.Pause
import AgentHooks.Proofs.Service.Compaction
import AgentHooks.Proofs.Service.Reminders
import AgentHooks.Proofs.Loop.Detection
import AgentHooks.Proofs.Session.StopWords
import AgentHooks.Proofs.Policy.Isolation
import AgentHooks.Proofs.Service.Agreement
import AgentHooks.Proofs.Pressure.Listing
import AgentHooks.Proofs.Journal.Entries
import AgentHooks.Proofs.Service.Lookup
import AgentHooks.Proofs.Text.Lowering
import AgentHooks.Proofs.Text.Spacing
import AgentHooks.Proofs.Pressure.Patterns
import AgentHooks.Proofs.Session.Queue
