import LedStudio.Clock.Script
import LedStudio.Log.Console
import LedStudio.Studio
import LedStudio.Proofs.Clock.Diary
import LedStudio.Proofs.Clock.Cadence
import LedStudio.Proofs.Clock.Frames
import LedStudio.Proofs.Pattern.Name
import LedStudio.Proofs.Action
import LedStudio.Proofs.Session.Basic
import LedStudio.Proofs.Session.Invariant
import LedStudio.Proofs.Session.Picture
import LedStudio.Proofs.Clock.Failing
import LedStudio.Proofs.Clock.Cut
import LedStudio.Proofs.Clock.Pace
import LedStudio.Proofs.Sketch.Layout
import LedStudio.Proofs.Http.Update
import LedStudio.Proofs.Http.Names
import LedStudio.Proofs.Http.Export
import LedStudio.Proofs.Http.Envelope
import LedStudio.Proofs.Session.Batch
import LedStudio.Proofs.Session.Rewinding
import LedStudio.Proofs.Session.Halfway
import LedStudio.Proofs.Settings.Including
import LedStudio.Proofs.Settings.Splitting
import LedStudio.Proofs.Session.Abreast
import LedStudio.Proofs.Number.Double
import LedStudio.Proofs.Pattern.Sampling
import LedStudio.Proofs.Session.Ledger
import LedStudio.Proofs.Session.Accounting
import LedStudio.Proofs.Session.Counting
import LedStudio.Proofs.Session.Exporting
import LedStudio.Proofs.Session.Delivery
import LedStudio.Proofs.Studio.Shutdown
import LedStudio.Proofs.Pattern.LedByLed
import LedStudio.Proofs.Number.HalfAway
import LedStudio.Proofs.Strip.Clamping
import LedStudio.Proofs.Prompt
import LedStudio.Proofs.Clock.Retiming
import LedStudio.Proofs.Clock.Task
import LedStudio.Proofs.Pattern.Chase
import LedStudio.Proofs.Pattern.Flashing
import LedStudio.Proofs.Sketch.Options
import LedStudio.Proofs.Http.Download
import LedStudio.Proofs.Choice
import LedStudio.Proofs.Log
import LedStudio.Proofs.Sketch.Hue
