import MouseControl.Main
import MouseControl.Proofs.WordPackets
import MouseControl.Proofs.ReadBack
import MouseControl.Proofs.Alike
import MouseControl.Proofs.Memory
import MouseControl.Proofs.Mouse
import MouseControl.Proofs.WordStore
import MouseControl.Proofs.WordWrite
import MouseControl.Proofs.WordVerify
import MouseControl.Proofs.Table
import MouseControl.Proofs.SaveHistory
import MouseControl.Proofs.PacketCodec
import MouseControl.Proofs.SaveSuccess
import MouseControl.Proofs.Deed
import MouseControl.Proofs.Rejection
import MouseControl.Proofs.Signature
import MouseControl.Proofs.DwordStore
import MouseControl.Proofs.FlashLockstep
import MouseControl.Proofs.DwordWindow
import MouseControl.Proofs.CrashFree
import MouseControl.Proofs.Job
import MouseControl.Proofs.CommandCourse
import MouseControl.Proofs.ExitStatus
import MouseControl.Proofs.DeviceGate
import MouseControl.Proofs.OpenSelected
import MouseControl.Proofs.InRange
import MouseControl.Proofs.LastSet
import MouseControl.Proofs.OwnAnswer
import MouseControl.Proofs.DwordTiles
import MouseControl.Proofs.SinkHistory
import MouseControl.Proofs.JsonGrammar
import MouseControl.Proofs.JsonNesting
import MouseControl.Proofs.ProfileText
import MouseControl.Proofs.WordAdmission
import MouseControl.Proofs.WordOverrun
import MouseControl.Flash.Source
import MouseControl.Proofs.WordSource
import MouseControl.Proofs.TableDurable
import MouseControl.Proofs.FlashReads
import MouseControl.Proofs.Discovery
import MouseControl.Proofs.LowerCase
import MouseControl.Proofs.NumberText
import MouseControl.Proofs.HexText
import MouseControl.Proofs.StrategyText
