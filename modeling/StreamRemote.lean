import StreamRemote.Main
import StreamRemote.Proofs.Call
import StreamRemote.Proofs.Document.AppEntries
import StreamRemote.Proofs.Document.AppListText
import StreamRemote.Proofs.Document.DeviceInfoText
import StreamRemote.Proofs.Document.ForegroundText
import StreamRemote.Proofs.Document.Insertion
import StreamRemote.Proofs.Document.Truncation
import StreamRemote.Proofs.Key
import StreamRemote.Proofs.Settings
import StreamRemote.Proofs.Settings.Sources
import StreamRemote.Proofs.Settings.Spelling
import StreamRemote.Proofs.Document.RootName
import StreamRemote.Proofs.Call.Requests
import StreamRemote.Proofs.Http.Status
import StreamRemote.Proofs.Session
import StreamRemote.Proofs.Document.Prolog
import StreamRemote.Proofs.Http.Body
import StreamRemote.Proofs.Playback.Millis
import StreamRemote.Proofs.Key.Normal
import StreamRemote.Proofs.Document.DisplayName
import StreamRemote.Proofs.Display.AppRows
import StreamRemote.Proofs.Display.PlayerLine
import StreamRemote.Proofs.LogFilter.Verbosity
