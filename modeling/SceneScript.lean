import SceneScript.Action
import SceneScript.Animation
import SceneScript.Command
import SceneScript.Command.Arguments
import SceneScript.Decimal.Binary64
import SceneScript.Decimal.Literal
import SceneScript.Decimal.Notation
import SceneScript.Decimal.Shortest
import SceneScript.Decimal.Whole
import SceneScript.Directive
import SceneScript.Fault
import SceneScript.Format.Animation
import SceneScript.Format.Command
import SceneScript.Format.Directive
import SceneScript.Format.Geometry
import SceneScript.Format.Output
import SceneScript.Format.Scene
import SceneScript.Format.Settings
import SceneScript.Format.Symbols
import SceneScript.Frame
import SceneScript.Geometry.Mat4
import SceneScript.Geometry.Mesh
import SceneScript.Geometry.Motion
import SceneScript.Geometry.TransformStack
import SceneScript.Geometry.Vec3
import SceneScript.Json.Printer
import SceneScript.Json.Reader
import SceneScript.Json.Record
import SceneScript.Json.Token
import SceneScript.Json.Value
import SceneScript.NameMap
import SceneScript.Op
import SceneScript.Output.Assembly
import SceneScript.Output.Disk
import SceneScript.Output.Path
import SceneScript.Output.Plan
import SceneScript.Rasterizer
import SceneScript.Render
import SceneScript.Render.Chunk
import SceneScript.Render.Schedule
import SceneScript.Scene
import SceneScript.Settings
import SceneScript.Shading
import SceneScript.Sink
import SceneScript.Surface
import SceneScript.Symbols
import SceneScript.Text.Blank
import SceneScript.Proofs.ActionLaws
import SceneScript.Proofs.Recording
import SceneScript.Proofs.FrameRuns
import SceneScript.Proofs.NestedScopes
import SceneScript.Proofs.KnobMeaning
import SceneScript.Proofs.Phases
import SceneScript.Proofs.SinkTrace
import SceneScript.Proofs.ChunkPartition
import SceneScript.Proofs.Memoryless
import SceneScript.Proofs.ParallelRuns
import SceneScript.Proofs.CarryOver
import SceneScript.Proofs.FrameObstacles
import SceneScript.Proofs.RenderConditions
import SceneScript.Proofs.Grammar
import SceneScript.Proofs.FailingRuns
import SceneScript.Proofs.RunReports
import SceneScript.Proofs.SinkCalls
import SceneScript.Proofs.Interruptions
import SceneScript.Proofs.CarriedFrames
import SceneScript.Proofs.PairedRuns
import SceneScript.Proofs.Interleavings
import SceneScript.Proofs.Unmentioned
import SceneScript.Proofs.FramePatterns
import SceneScript.Proofs.Resolution
import SceneScript.Proofs.Snapshots
import SceneScript.Proofs.Preflight
import SceneScript.Proofs.RecordFields
import SceneScript.Proofs.RoundTrips
import SceneScript.Proofs.FrameOutcomes
import SceneScript.Proofs.SurfaceCells
import SceneScript.Proofs.DepthBuffer
import SceneScript.Proofs.MergeOutcomes
import SceneScript.Proofs.StackOperations
import SceneScript.Proofs.MotionsInForce
import SceneScript.Proofs.ExactRamps
import SceneScript.Proofs.PathRoutes
import SceneScript.Proofs.DistinctNames
import SceneScript.Proofs.ChunkLoop
import SceneScript.Proofs.CarriedFrames
