import Capm3.Tls.Config
import Capm3.Tls.Options
import Capm3.Tls.Policy
import Capm3.Tls.Messages
import Capm3.Discovery
import Capm3.Flags
import Capm3.Main
import Capm3.Hack.GolangciLint
