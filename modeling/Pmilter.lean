import Pmilter.Lib.Mealy
import Pmilter.Lib.Except
import Pmilter.Lib.Layout
import Pmilter.Milter.Defs
import Pmilter.Milter.Reply
import Pmilter.Milter.Engine
import Pmilter.Milter.Lifecycle
import Pmilter.Milter.Delivery
import Pmilter.Milter.Comm
import Pmilter.Milter.Wire
import Pmilter.Milter.Pool
import Pmilter.Milter.Macros
import Pmilter.Core.Types
import Pmilter.Core.Handler
import Pmilter.Core.Callbacks
import Pmilter.Core.Status
import Pmilter.Core.Slots
import Pmilter.Core.Connect
import Pmilter.Util.HttpDate
import Pmilter.Config.Toml
import Pmilter.Config.Parse
import Pmilter.Core.Session
import Pmilter.Core.Context
import Pmilter.Core.Delivery
import Pmilter.Core.Actions
