import Procon.Framework.CollectingLoop
import Procon.Framework.NestedMap
import Procon.Properties.FiniteMap
import Procon.Properties.SaveAtomicity
import Procon.Properties.ListScreen
import Procon.Properties.InterruptedSaves
import Procon.Properties.RowStability
import Procon.Properties.Callbacks
import Procon.Properties.MalformedUploads
import Procon.Properties.RowRange
import Procon.Properties.RefreshProgress
import Procon.Properties.SerialRefresh
import Procon.Properties.OwnerLookup
import Procon.Properties.UploadedDocuments
import Procon.Properties.ReloadedRows
import Procon.Properties.UploadDelivery
import Procon.Properties.AccountLife
import Procon.Properties.AccountScreen
import Procon.Properties.OwnerRecord
import Procon.Properties.VerifiedUpload
import Procon.Properties.SavedCopies
import Procon.Properties.PixelChannels
import Procon.Properties.Binarization
import Procon.Properties.BinarizedPicture
import Procon.Properties.GreyLevels
import Procon.Properties.SavedText
import Procon.Properties.KeyboardCover
import Procon.Properties.SaveScreens
import Procon.Properties.DocumentOrigins
import Procon.Properties.AuthenticEntries
import Procon.Properties.ListedOrigins
import Procon.Properties.QuestionLayout
import Procon.Properties.EpochLoss
import Procon.Properties.TrainingOutput
import Procon.Properties.TrainedLayers
