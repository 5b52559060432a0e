import BlockFs.Params
import BlockFs.Error
import BlockFs.Bytes
import BlockFs.Word
import BlockFs.Geometry
import BlockFs.Superblock
import BlockFs.Inode
import BlockFs.Directory
import BlockFs.Bitmap.Basic
import BlockFs.Bitmap.Query
import BlockFs.Device.Basic
import BlockFs.Device.Image
import BlockFs.Device.RamDisk
import BlockFs.Device.ImageFile
import BlockFs.Device.Monitor
import BlockFs.Device.Lawful
import BlockFs.Event
import BlockFs.Engine
import BlockFs.Format
import BlockFs.Mount.Basic
import BlockFs.Mount.Allocation
import BlockFs.Mount.InodeTable
import BlockFs.Mount.Lifetime
import BlockFs.Mount.Operation
import BlockFs.MountTable
import BlockFs.Store
import BlockFs.Tool.Arguments
import BlockFs.Tool.Style
import BlockFs.Tool.Report
import BlockFs.Tool.Run
import BlockFs.Main
import BlockFs.Proofs.Bytes
import BlockFs.Proofs.Word
import BlockFs.Proofs.Codec
import BlockFs.Proofs.Bitmap.Bits
import BlockFs.Proofs.Bitmap.FreeSet
import BlockFs.Proofs.Bitmap.UnitSet
import BlockFs.Proofs.Bitmap.Prefix
import BlockFs.Proofs.Bitmap.Reload
import BlockFs.Proofs.Geometry
import BlockFs.Proofs.Span
import BlockFs.Proofs.Device.Request
import BlockFs.Proofs.Directory
import BlockFs.Proofs.Device.Image
import BlockFs.Proofs.Device.RamDisk
import BlockFs.Proofs.Device.BlockMap
import BlockFs.Proofs.Device.Coupling
import BlockFs.Proofs.Engine.Run
import BlockFs.Proofs.Engine.Congruence
import BlockFs.Proofs.Engine.Coupling
import BlockFs.Proofs.Engine.Transfer
import BlockFs.Proofs.Engine.Healthy
import BlockFs.Proofs.Engine.Refusals
import BlockFs.Proofs.Engine.Rows
import BlockFs.Proofs.Mount.Mirror
import BlockFs.Proofs.Mount.Allocation
import BlockFs.Proofs.Mount.Lifetime
import BlockFs.Proofs.Mount.Acceptance
import BlockFs.Proofs.Mount.Change
import BlockFs.Proofs.Mount.SyncRow
import BlockFs.Proofs.Mount.Tracking
import BlockFs.Proofs.Format
import BlockFs.Proofs.EmptyFilesystem
import BlockFs.Proofs.CleanMount
import BlockFs.Proofs.Ledger
import BlockFs.Proofs.Session
import BlockFs.Proofs.Accounting
import BlockFs.Proofs.Ownership
import BlockFs.Proofs.Mount.Refusals
import BlockFs.Proofs.Mount.Demands
import BlockFs.Proofs.MountVerdict
import BlockFs.Proofs.Faultless
import BlockFs.Proofs.FormatBuffers
import BlockFs.Proofs.Mount.Ending
import BlockFs.Proofs.Lives
import BlockFs.Proofs.Overcount
import BlockFs.Proofs.Lifetimes
import BlockFs.Proofs.Engine.Perfect
import BlockFs.Proofs.Mount.Congruence
import BlockFs.Proofs.Mount.Mimicry
import BlockFs.Proofs.Mount.Replies
import BlockFs.Proofs.Mount.Twins
import BlockFs.Proofs.Remount
import BlockFs.Proofs.Resync
import BlockFs.Proofs.RecordConfinement
import BlockFs.Proofs.InodeTable
import BlockFs.Proofs.FormatRow
import BlockFs.Proofs.FormatOrder
import BlockFs.Proofs.Mount.Deferral
import BlockFs.Proofs.Mount.InPlace
import BlockFs.Proofs.Atomicity
import BlockFs.Proofs.Durability
import BlockFs.Proofs.RootInode
import BlockFs.Proofs.DeviceEnd
import BlockFs.Proofs.Commands
import BlockFs.Proofs.Interchange
import BlockFs.Proofs.DurabilityChoice
import BlockFs.Proofs.InodeCodec
import BlockFs.Proofs.Partition
import BlockFs.Proofs.SuperblockCodec
import BlockFs.Proofs.InodeAddressing
import BlockFs.Proofs.SpanTransfer
import BlockFs.Proofs.Bitmap.Edits
import BlockFs.Proofs.Mount.Pools
import BlockFs.Proofs.AllocationAlgebra
