import SceneEditor.Link.Basic
import SceneEditor.Main
import SceneEditor.Panel.Basic
import SceneEditor.Proofs.Link.RoundTrip
import SceneEditor.Proofs.Session.Conservation
import SceneEditor.Proofs.Session.Intake
import SceneEditor.Proofs.World.Mirror
import SceneEditor.Session.Keys
import SceneEditor.Settings.Document
import SceneEditor.Terminal.Basic
import SceneEditor.World.Replica
import SceneEditor.Proofs.Link.LineEnds
import SceneEditor.Proofs.Link.Refusal
import SceneEditor.Proofs.Link.Delivery
import SceneEditor.Proofs.Link.Inbound
import SceneEditor.Proofs.Link.RunSchedule
import SceneEditor.Proofs.Link.Turns
import SceneEditor.Proofs.Link.Survival
import SceneEditor.Proofs.Link.Handshake
import SceneEditor.Proofs.Link.Outlook
import SceneEditor.Proofs.Link.Budget
import SceneEditor.Proofs.Link.BodyEnd
import SceneEditor.Proofs.Panel.Answers
import SceneEditor.Proofs.Session.LineLog
import SceneEditor.Proofs.Timeline.PointerHub
import SceneEditor.Proofs.Timeline.Drags
import SceneEditor.Proofs.Timeline.Operations
import SceneEditor.Proofs.Timeline.Updates
import SceneEditor.Proofs.Session.Interaction
import SceneEditor.Proofs.Line.PointList
import SceneEditor.Proofs.Line.WrittenRanges
import SceneEditor.Proofs.Line.WrittenMaterials
import SceneEditor.Proofs.Line.QuotedNames
import SceneEditor.Proofs.Settings.Document
import SceneEditor.Proofs.Material.BuildMode
import SceneEditor.Proofs.Timeline.Listening
import SceneEditor.Proofs.Session.Building
import SceneEditor.Proofs.Session.ActiveMaterial
import SceneEditor.Proofs.Timeline.PointerProgram
import SceneEditor.Proofs.Outcome
import SceneEditor.Proofs.World.Schema
import SceneEditor.Proofs.Json.KeyOrder
import SceneEditor.Proofs.World.KeyOrder
import SceneEditor.Proofs.Line.CallShape
import SceneEditor.Proofs.Session.Forwarding
import SceneEditor.Proofs.Timeline.Refreshing
import SceneEditor.Proofs.Timeline.Rows
import SceneEditor.Proofs.Timeline.Sparing
import SceneEditor.Proofs.Session.Deeds
import SceneEditor.Proofs.Session.Renaming
import SceneEditor.Proofs.Timeline.Following
import SceneEditor.Proofs.Timeline.Settings
import SceneEditor.Proofs.Timeline.Arithmetic
import SceneEditor.Proofs.Session.Seeking
import SceneEditor.Proofs.Session.Dragging
import SceneEditor.Proofs.Session.WrittenTimes
import SceneEditor.Proofs.Session.Destructive
import SceneEditor.Proofs.Session.Consent
import SceneEditor.Proofs.Panel.Consent
import SceneEditor.Proofs.Session.TypedNumbers
import SceneEditor.Proofs.Material.FreeThickness
import SceneEditor.Proofs.Material.Derivation
import SceneEditor.Proofs.World.Telling
import SceneEditor.Proofs.Line.Browsing
import SceneEditor.Proofs.Session.TypedRanges
import SceneEditor.Proofs.Link.EscapedForm
import SceneEditor.Proofs.Color.Canonical
import SceneEditor.Proofs.Material.Isolation
import SceneEditor.Proofs.Command.Wire
import SceneEditor.Proofs.Number.WireText
