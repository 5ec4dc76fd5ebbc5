import Rosmon.Terminal.Parser
import Rosmon.Terminal.Invariants
import Rosmon.Terminal.Numerals
import Rosmon.Terminal.Sgr
import Rosmon.Terminal.Keys
import Rosmon.Terminal.Colors
import Rosmon.Terminal.Output
import Rosmon.Monitor.ProcessTable
import Rosmon.Monitor.Basic
import Rosmon.Monitor.Fleet
import Rosmon.Monitor.Stats
import Rosmon.Main.Shutdown
import Rosmon.Main.Options
import Rosmon.Main.Positional
import Rosmon.Main.Startup
