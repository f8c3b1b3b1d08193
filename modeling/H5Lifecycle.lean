import H5Lifecycle.Shutdown.Down
import H5Lifecycle.Shutdown.Loop
import H5Lifecycle.Shutdown.Order
import H5Lifecycle.Debug.Mask
import H5Lifecycle.Debug.Tokens
import H5Lifecycle.Version.Check
import H5Lifecycle.Library.State
import H5Lifecycle.Library.Exec
import H5Lifecycle.Library.Stages
import H5Lifecycle.Library.Machine
import H5Lifecycle.Library.Refinement
import H5Lifecycle.Library.Atclose
import H5Lifecycle.Debug.Progress
import H5Lifecycle.Shutdown.Report
import H5Lifecycle.Library.Invariants
