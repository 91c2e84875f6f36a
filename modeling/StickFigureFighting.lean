import StickFigureFighting.Library.Runs
import StickFigureFighting.Library.Settling
import StickFigureFighting.Library.Lockstep
import StickFigureFighting.Library.Counters
import StickFigureFighting.Library.Paced
import StickFigureFighting.Library.Held
import StickFigureFighting.Library.Rounds
import StickFigureFighting.Library.TwoRate
import StickFigureFighting.Library.Painting
import StickFigureFighting.Library.Accounts
import StickFigureFighting.Model.Game
import StickFigureFighting.Model.Vga
import StickFigureFighting.Model.Blitter
import StickFigureFighting.Model.Pictures
import StickFigureFighting.Model.Console
import StickFigureFighting.Model.Scene
import StickFigureFighting.Proofs.HpMatch
import StickFigureFighting.Proofs.HitAccounting
import StickFigureFighting.Proofs.ClockSettling
import StickFigureFighting.Proofs.Reachable
import StickFigureFighting.Proofs.ScreenEdges
import StickFigureFighting.Proofs.Heights
import StickFigureFighting.Proofs.ActionGuards
import StickFigureFighting.Proofs.Exclusion
import StickFigureFighting.Proofs.KnockBack
import StickFigureFighting.Proofs.ModeSelect
import StickFigureFighting.Proofs.MenuPhase
import StickFigureFighting.Proofs.ResetHistory
import StickFigureFighting.Proofs.HitRules
import StickFigureFighting.Proofs.KeySets
import StickFigureFighting.Proofs.Orientation
import StickFigureFighting.Proofs.AiFacing
import StickFigureFighting.Proofs.HpiCalls
import StickFigureFighting.Proofs.KeyReports
import StickFigureFighting.Proofs.KeySettling
import StickFigureFighting.Proofs.Passing
import StickFigureFighting.Proofs.Commands
import StickFigureFighting.Proofs.RightEdge
import StickFigureFighting.Proofs.MatchEnd
import StickFigureFighting.Proofs.Flight
import StickFigureFighting.Proofs.AttackWindows
import StickFigureFighting.Proofs.Raster
import StickFigureFighting.Proofs.SpriteRows
import StickFigureFighting.Proofs.HpBars
import StickFigureFighting.Proofs.FrameClock
import StickFigureFighting.Proofs.Poses
import StickFigureFighting.Proofs.Picture
import StickFigureFighting.Proofs.Backgrounds
import StickFigureFighting.Proofs.Contact
import StickFigureFighting.Proofs.MatchLength
import StickFigureFighting.Proofs.Recoil
import StickFigureFighting.Proofs.Rest
import StickFigureFighting.Proofs.Guard
import StickFigureFighting.Proofs.Cycles
import StickFigureFighting.Proofs.Stun
import StickFigureFighting.Proofs.Pursuit
import StickFigureFighting.Proofs.Unharmed
import StickFigureFighting.Proofs.Noninterference
import StickFigureFighting.Proofs.Latched
