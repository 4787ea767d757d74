import Usockit.WriteAll
import Usockit.Server.Delivery
import Usockit.Server.Stdin
import Usockit.Server.Integrity
import Usockit.Server.Closing
import Usockit.Server.ExecReport
import Usockit.Server.MutexRelease
import Usockit.Server.ThreadHandles
import Usockit.Server.Reaping
import Usockit.Server.ExecTable
import Usockit.Server.Shutdown
import Usockit.Server.Unwinding
import Usockit.Client.Teardown
import Usockit.Client.Recognition
import Usockit.Client.Forwarding
import Usockit.Server.Statuses
import Usockit.Main.Grammar
import Usockit.Main.Program
import Usockit.Main.Release
import Usockit.ErrorReport
import Usockit.Network.Delivery
import Usockit.Network.Termination
import Usockit.Main.Exit
import Usockit.Main.OutOfMemory
import Usockit.Client.Race
import Usockit.Server.Race
import Usockit.Server.OpenFiles
import Usockit.Network.Serving
