import GitLogin.Main
import GitLogin.PromptThread.Queue
import GitLogin.Surface.Recorder
import GitLogin.Surface.Script
import GitLogin.Proofs.Replay
import GitLogin.Proofs.Parallel
import GitLogin.Proofs.Protocol
import GitLogin.Proofs.Exchange
import GitLogin.Proofs.TypedLines
import GitLogin.Proofs.Answer
import GitLogin.Proofs.Get
import GitLogin.Proofs.Secrecy
import GitLogin.Proofs.Attributes
import GitLogin.Proofs.BrokenScreen
import GitLogin.Proofs.Attempts
import GitLogin.Proofs.Askpass
import GitLogin.Proofs.HandedUrl
import GitLogin.Proofs.Screen
import GitLogin.Proofs.Schedule
import GitLogin.Proofs.Dispatch
import GitLogin.Proofs.Slices
import GitLogin.Proofs.Checked
import GitLogin.Proofs.Driven
import GitLogin.Proofs.KeyFile
import GitLogin.Proofs.Prefill
import GitLogin.Proofs.LoginUrl
import GitLogin.Proofs.Owner
import GitLogin.Proofs.Recognition
import GitLogin.Proofs.FirstLine
import GitLogin.Proofs.Header
import GitLogin.Proofs.Ports
import GitLogin.Proofs.Remnants
import GitLogin.Proofs.Names
import GitLogin.Proofs.Overlay
import GitLogin.Proofs.Seeding
import GitLogin.Proofs.Colons
import GitLogin.Proofs.LastComponent
