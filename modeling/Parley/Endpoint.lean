import Parley.Network

namespace Parley.Network

variable {σ : Type}

/-- Seats a server session, which carries out `actions` before it runs. -/
def upgrade (config : ServerConfig) (handler : Handler σ) (actions : List Action)
    (n : Network σ) : Network σ :=
  n.enter (.server 0 config.session) handler true 0 actions

/-- Seats a server session that accepts by the policy of the server. -/
def accept (config : ServerConfig) (handler : Handler σ) (n : Network σ) : Network σ :=
  n.upgrade config handler [.accept config.accept]

def connect (config : ClientConfig) (handler : Handler σ) (n : Network σ) : Network σ :=
  n.enter (.client 0 config) handler false 1 [.connected]

end Parley.Network
