import CsmReplication.Core.Strings
import CsmReplication.Core.Objects
import CsmReplication.Core.Store
import CsmReplication.Controller.Pass
import CsmReplication.Controller.Snapshot
import CsmReplication.Controller.Reconcile
import CsmReplication.Controller.Frame
import CsmReplication.Controller.Writes
import CsmReplication.Controller.Paths
import CsmReplication.Controller.PassFrame
import CsmReplication.System.Run
import CsmReplication.Properties.Deletion
import CsmReplication.Properties.OtherGroups
import CsmReplication.Properties.Sync
import CsmReplication.Controller.Log
import CsmReplication.Properties.Steady
import CsmReplication.Properties.Naming
import CsmReplication.Properties.Actions
import CsmReplication.Properties.SharedMirror
import CsmReplication.Properties.MirrorLabels
import CsmReplication.Properties.SnapshotContents
import CsmReplication.Properties.Handshake
import CsmReplication.Properties.Pairing
import CsmReplication.Properties.SnapshotBinding
import CsmReplication.Properties.Materialize
import CsmReplication.Properties.Persistence
import CsmReplication.Properties.Paired
import CsmReplication.Controller.Failures
import CsmReplication.Properties.Recovery
import CsmReplication.Properties.Teardown
import CsmReplication.Properties.Lifecycle
import CsmReplication.System.Schedule
import CsmReplication.Properties.Convergence
import CsmReplication.Properties.Resume
import CsmReplication.Properties.Finalizer
