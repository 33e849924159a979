import Parley.Chat.Room
import Parley.Echo
import Parley.Settings.Server
import Parley.SocketAddress

namespace Parley.Settings.ServerSettings

def handler (s : ServerSettings) : Handler Chat.Room :=
  match s.mode with
  | .echo => .echo
  | .chat => .chatRoom

def room (s : ServerSettings) : Chat.Room := { limit := s.historyLimit }

/-- The address to listen on, if there is such an address. -/
def listenAddress? (s : ServerSettings) : Except String SocketAddress :=
  match SocketAddress.parse s.listenAddress with
  | some a => .ok a
  | none => .error SocketAddress.syntaxError

end Parley.Settings.ServerSettings
