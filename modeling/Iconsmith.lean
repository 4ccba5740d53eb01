import Iconsmith.Main
import Iconsmith.Program
import Iconsmith.Proofs.Canvas.Channels
import Iconsmith.Proofs.Canvas.HiddenColours
import Iconsmith.Proofs.Canvas.Kept
import Iconsmith.Proofs.Canvas.Memory
import Iconsmith.Proofs.Canvas.Sampled
import Iconsmith.Proofs.Command.Neutrality
import Iconsmith.Proofs.Command.Overriding
import Iconsmith.Proofs.Command.PixelLimit
import Iconsmith.Proofs.Command.Repetition
import Iconsmith.Proofs.Command.Spelling
import Iconsmith.Proofs.Convert.Embedded
import Iconsmith.Proofs.Files.Footprint
import Iconsmith.Proofs.Files.Repetition
import Iconsmith.Proofs.Fit.AspectRatio
import Iconsmith.Proofs.Fit.LimitingSide
import Iconsmith.Proofs.Loading.Recognition
import Iconsmith.Proofs.Png.RoundTrip
import Iconsmith.Proofs.Program.Reporting
import Iconsmith.Proofs.Settings.Merging
import Iconsmith.Proofs.Settings.RoundTrip
import Iconsmith.Proofs.Shrink.Naming
import Iconsmith.Proofs.Svg.References
import Iconsmith.Text.Lossy
