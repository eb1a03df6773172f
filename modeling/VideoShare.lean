import VideoShare.Http.Respond
import VideoShare.Main
import VideoShare.Proofs.Atomicity
import VideoShare.Proofs.Departure
import VideoShare.Proofs.FeedOrder
import VideoShare.Proofs.HistorySpacing
import VideoShare.Proofs.LikeRuns
import VideoShare.Proofs.ScoreHistory
import VideoShare.Proofs.Upload
import VideoShare.Proofs.Paging
import VideoShare.Proofs.DecimalText
import VideoShare.Proofs.Engagement
import VideoShare.Proofs.Retry
import VideoShare.Proofs.Requests
import VideoShare.Proofs.Callers
import VideoShare.Proofs.SearchRecency
import VideoShare.Proofs.WatchRecency
import VideoShare.Proofs.VideoRows
import VideoShare.Proofs.BrokenUpload
import VideoShare.Proofs.FolderNames
import VideoShare.Proofs.UnprocessedImage
import VideoShare.Proofs.TopList
import VideoShare.Proofs.Promotion
import VideoShare.Proofs.WatchEffect
import VideoShare.Proofs.Listing
import VideoShare.Proofs.OptionSearch
import VideoShare.Proofs.RangeSearch
import VideoShare.Proofs.PatternMatching
import VideoShare.Proofs.TextSearch
import VideoShare.Proofs.ReplacedContent
import VideoShare.Proofs.Recommendations
import VideoShare.Proofs.AcceptedLanguages
import VideoShare.Proofs.LanguageNames
import VideoShare.Proofs.ImageRemoval
import VideoShare.Proofs.NewFolders
import VideoShare.Proofs.InvalidMetadata
import VideoShare.Proofs.SampleRows
import VideoShare.Proofs.RangeGrammar
import VideoShare.Proofs.ObjectKeys
