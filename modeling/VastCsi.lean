import VastCsi.Ext.KeyLocker
import VastCsi.Ext.StaleFields
import VastCsi.Ext.VvrPromotion
import VastCsi.Ext.TopologyDirs
import VastCsi.Ext.VscrOnePrimary
import VastCsi.Ext.VrcRemembered
import VastCsi.Ext.ContentParents
import VastCsi.Ext.ContentBarrier
import VastCsi.Ext.RetainedMirrors
import VastCsi.Ext.CleanupDone
import VastCsi.Ext.MirrorScope
import VastCsi.Ext.PolicyCover
import VastCsi.Ext.SanitizedNames
import VastCsi.Ext.SyncInterval
import VastCsi.Ext.LabelBackfill
import VastCsi.Ext.BackendObjects
import VastCsi.Ext.ReplicationClasses
import VastCsi.Ext.PolicyCross
import VastCsi.Ext.PeerQueries
import VastCsi.Ext.ValidateOnce
import VastCsi.Ext.MappingCover
import VastCsi.Ext.TouchAfterChange
import VastCsi.Ext.GroupPredicate
import VastCsi.Ext.StreamNames
import VastCsi.Ext.StreamOrder
import VastCsi.Ext.MirrorSources
import VastCsi.Ext.BackendObjectKey
import VastCsi.Ext.SecretAccess
import VastCsi.Ext.Regrant
import VastCsi.Vms.SessionCache
import VastCsi.Vms.Serialization
import VastCsi.Vms.RetryCache
import VastCsi.Vms.TokenExpiry
import VastCsi.Vms.Pages
import VastCsi.Csi.NodeStageFormat
import VastCsi.Csi.BlockPrune
import VastCsi.Csi.BlockExclusive
import VastCsi.Csi.MtlsKeyring
import VastCsi.Csi.DeleteSnapshot
import VastCsi.Csi.EphemeralUnpublish
import VastCsi.Csi.CreateRetries
import VastCsi.Csi.MountFlags
import VastCsi.Csi.Nfs4Options
import VastCsi.Csi.ControllerExpand
import VastCsi.Csi.BlockCreate
import VastCsi.Csi.PpathWait
import VastCsi.Csi.SubsystemWalk
import VastCsi.Csi.NvmeSessions
import VastCsi.Cosi.DeleteBucket
import VastCsi.Cosi.CloneOwner
