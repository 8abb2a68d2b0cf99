import Storyboard.Main
import Storyboard.Pattern
import Storyboard.Proofs.ArtifactRecord
import Storyboard.Proofs.Extraction
import Storyboard.Proofs.ResultFile
import Storyboard.Proofs.RunFrame
import Storyboard.Proofs.TreeInvariant
import Storyboard.Proofs.ReadValues
import Storyboard.Proofs.RepeatedTimes
import Storyboard.Proofs.ManifestReadBack
import Storyboard.Proofs.AlikeDisks
import Storyboard.Proofs.ManifestPrecedence
import Storyboard.Proofs.Republishing
import Storyboard.Proofs.Rerun
import Storyboard.Proofs.WrittenTimes
import Storyboard.Proofs.SkippedTimes
import Storyboard.Proofs.ScreenshotPaths
import Storyboard.Proofs.DirectWriting
import Storyboard.Proofs.KeywordOrder
import Storyboard.Proofs.NumberedSteps
import Storyboard.Proofs.StatusTimes
import Storyboard.Proofs.DenotedFiles
import Storyboard.Proofs.SlugShape
import Storyboard.Proofs.WrappedArguments
import Storyboard.Proofs.OfferedVideos
import Storyboard.Proofs.FractionalStamps
import Storyboard.Proofs.FixedOffsets
import Storyboard.Proofs.ManifestMembers
import Storyboard.Proofs.StepIdentifiers
import Storyboard.Proofs.IrrelevantNodes
import Storyboard.Proofs.CommandLines
