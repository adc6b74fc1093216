import EmbodiRun.Agents.Sessions
import EmbodiRun.Agents.StopTarget
import EmbodiRun.Application.Independence
import EmbodiRun.Application.Retries
import EmbodiRun.Application.RoundTrip
import EmbodiRun.Arbiter.Holds
import EmbodiRun.Arbiter.Outcomes
import EmbodiRun.Arbiter.Tokens
import EmbodiRun.Deployment.CaptureProfiles
import EmbodiRun.Deployment.Captures
import EmbodiRun.Deployment.Recovery
import EmbodiRun.Deployment.Sync
import EmbodiRun.Devices.Joystick
import EmbodiRun.Devices.Leases
import EmbodiRun.Devices.Markers
import EmbodiRun.Go2.Camera
import EmbodiRun.Go2.Encoding
import EmbodiRun.Go2.Executor
import EmbodiRun.Go2.Follower
import EmbodiRun.Go2.MotionLease
import EmbodiRun.Go2.Owner
import EmbodiRun.Go2.Reactive
import EmbodiRun.Go2.Transport
import EmbodiRun.Http.Execution
import EmbodiRun.Io.Order
import EmbodiRun.Io.Recovery
import EmbodiRun.Io.Silence
import EmbodiRun.Jobs.Inference
import EmbodiRun.Jobs.Results
import EmbodiRun.Jobs.Retried
import EmbodiRun.Jobs.Shutdown
import EmbodiRun.Jobs.Verdicts
import EmbodiRun.ModelServices.Sglang
import EmbodiRun.ModelServices.Shutdown
import EmbodiRun.Observations.Complete
import EmbodiRun.Observations.Freshness
import EmbodiRun.Observations.Hub
import EmbodiRun.Observations.Redaction
import EmbodiRun.Observations.Requests
import EmbodiRun.Observations.Subscriptions
import EmbodiRun.Observations.Window
import EmbodiRun.Robots.BiSo101
import EmbodiRun.Rollout.CameraClose
import EmbodiRun.Rollout.Fingerprint
import EmbodiRun.Rollout.Nixl
import EmbodiRun.Rollout.Segmented
import EmbodiRun.Rollout.Session
import EmbodiRun.Rollout.Zenoh
import EmbodiRun.Service.Stop
import EmbodiRun.Xlerobot.Appending
import EmbodiRun.Xlerobot.Evidence
import EmbodiRun.Xlerobot.Goals
import EmbodiRun.Xlerobot.Keyboard
import EmbodiRun.Xlerobot.LocalSegment
import EmbodiRun.Xlerobot.Ownership
import EmbodiRun.Xlerobot.Proxy
import EmbodiRun.Xlerobot.QuestMapper
import EmbodiRun.Xlerobot.Resample
import EmbodiRun.Xlerobot.Units
