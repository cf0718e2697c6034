import Twelve.Debug
import Twelve.Frontend.Deployments
import Twelve.Frontend.Middleware
import Twelve.Page.MethodNotAllowed
import Twelve.Shutdown.Runs
import Twelve.Urls.Extraction
import Twelve.Urls.HeaderLines
import Twelve.Urls.References
import Twelve.Shutdown.Broadcast
import Twelve.Library.Acceptor
import Twelve.Listener
import Twelve.Listener.Transparency
import Twelve.Server
import Twelve.Server.Runs
import Twelve.Library.Once
import Twelve.Page.Details
import Twelve.Config.Location
import Twelve.Urls.Printing
import Twelve.Frontend.Stacks
import Twelve.Config.Addresses
import Twelve.Library.Records
import Twelve.Listener.Printing
import Twelve.Config.Document
import Twelve.Config.External
import Twelve.Frontend.Detection
import Twelve.Urls.Proxies
import Twelve.Library.Numerals
import Twelve.Net.SocketAddr
